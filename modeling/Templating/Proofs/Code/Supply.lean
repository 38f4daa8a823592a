import Templating.Code.Module

/-!
# What lowering gives

A computation on the supply of temporaries takes the last number in use and
gives a value and the last number after it.  The equations here say this for
every form of attribute, node and declaration; proofs about lowering start from
them and not from the computations.

The function of a declaration is laid out from the statements in its body, so
lowering the bodies of a file is a stage of its own.
-/

namespace Templating.Code

/-! ## Attributes -/

theorem prepareAttribute_classList (value : Expression) (last : Nat) :
    prepareAttribute (.computed "class" value) last =
      (([.bindClasses ⟨last + 1⟩ value, .renderStyles ⟨last + 1⟩],
        .classList "class" ⟨last + 1⟩), last + 1) :=
  rfl

theorem prepareAttribute_handler {name : String} (value : Expression)
    (last : Nat) (notClass : name ≠ "class")
    (handler : Attribute.isHandlerName name = true) :
    prepareAttribute (.computed name value) last =
      (([.bindScript ⟨last + 1⟩ value], .handler name ⟨last + 1⟩),
        last + 1) := by
  simp only [prepareAttribute, if_neg notClass, handler, if_true]
  rfl

theorem prepareAttribute_computed {name : String} (value : Expression)
    (last : Nat) (notClass : name ≠ "class")
    (notHandler : ¬Attribute.isHandlerName name = true) :
    prepareAttribute (.computed name value) last =
      (([], .direct (.computed name value)), last) := by
  simp only [prepareAttribute, if_neg notClass, if_neg notHandler]
  rfl

theorem prepareAttributes_cons (item : Attribute) (rest : List Attribute)
    (last : Nat) :
    prepareAttributes (item :: rest) last =
      (((prepareAttribute item last).1.1 ++
            (prepareAttributes rest (prepareAttribute item last).2).1.1,
          (prepareAttribute item last).1.2 ::
            (prepareAttributes rest (prepareAttribute item last).2).1.2),
        (prepareAttributes rest (prepareAttribute item last).2).2) :=
  rfl

theorem lowerAttribute_url (value : Expression) (last : Nat) :
    lowerAttribute "a" (.direct (.computed "href" value)) last =
      (quotedAttribute "href"
        [.bindUrl ⟨last + 1⟩ value, .writeEscapedTemporary ⟨last + 1⟩],
        last + 1) :=
  rfl

theorem lowerAttribute_computed {tag name : String} (value : Expression)
    (last : Nat) (notUrl : ¬(tag = "a" && name = "href") = true) :
    lowerAttribute tag (.direct (.computed name value)) last =
      (quotedAttribute name [.writeEscaped value], last) := by
  simp only [lowerAttribute, if_neg notUrl]
  rfl

theorem lowerAttributes_cons (tag : String) (item : PreparedAttribute)
    (rest : List PreparedAttribute) (last : Nat) :
    lowerAttributes tag (item :: rest) last =
      ((lowerAttribute tag item last).1 ++
          (lowerAttributes tag rest (lowerAttribute tag item last).2).1,
        (lowerAttributes tag rest (lowerAttribute tag item last).2).2) :=
  rfl

theorem lowerOpening_nil (tag : String) (last : Nat) :
    lowerOpening tag [] last = ([.writeText ("<" ++ tag ++ ">")], last) :=
  rfl

theorem lowerOpening_cons (tag : String) (item : Attribute)
    (rest : List Attribute) (last : Nat) :
    lowerOpening tag (item :: rest) last =
      ((prepareAttributes (item :: rest) last).1.1 ++
          renderHandlers (prepareAttributes (item :: rest) last).1.2 ++
          [.writeText ("<" ++ tag)] ++
          (lowerAttributes tag (prepareAttributes (item :: rest) last).1.2
            (prepareAttributes (item :: rest) last).2).1 ++
          [.writeText ">"],
        (lowerAttributes tag (prepareAttributes (item :: rest) last).1.2
          (prepareAttributes (item :: rest) last).2).2) :=
  rfl

/-! ## Nodes -/

theorem lowerNode_rejected (tag : String) (attributes : List Attribute)
    (child : Node) (children : List Node) (last : Nat) :
    lowerNode (.element tag true attributes (child :: children)) last =
      ([.rejected tag], last) :=
  rfl

theorem lowerNode_void (tag : String) (attributes : List Attribute)
    (last : Nat) :
    lowerNode (.element tag true attributes []) last =
      lowerOpening tag attributes last :=
  rfl

theorem lowerNode_element (tag : String) (attributes : List Attribute)
    (children : List Node) (last : Nat) :
    lowerNode (.element tag false attributes children) last =
      ((lowerOpening tag attributes last).1 ++
          (lowerNodes children (lowerOpening tag attributes last).2).1 ++
          [.writeText ("</" ++ tag ++ ">")],
        (lowerNodes children (lowerOpening tag attributes last).2).2) :=
  rfl

theorem lowerNode_text (value : String) (last : Nat) :
    lowerNode (.text value) last =
      ([.bindText ⟨last + 1⟩ value, .writeTemporary ⟨last + 1⟩], last + 1) :=
  rfl

theorem lowerNode_loop (header : Expression) (body : List Node) (last : Nat) :
    lowerNode (.loop header body) last =
      ([.loop header (lowerNodes body last).1], (lowerNodes body last).2) :=
  rfl

theorem lowerNode_conditional (condition : Expression)
    (thenBranch : List Node) (elseBranch : Option (List Node)) (last : Nat) :
    lowerNode (.conditional condition thenBranch elseBranch) last =
      ([.conditional condition (lowerNodes thenBranch last).1
          (lowerBranch elseBranch (lowerNodes thenBranch last).2).1],
        (lowerBranch elseBranch (lowerNodes thenBranch last).2).2) :=
  rfl

theorem lowerNode_choice (subject : Expression)
    (cases : List (Expression × List Node)) (fallback : Option (List Node))
    (last : Nat) :
    lowerNode (.choice subject cases fallback) last =
      ([.choice subject (lowerCases cases last).1
          (lowerBranch fallback (lowerCases cases last).2).1],
        (lowerBranch fallback (lowerCases cases last).2).2) :=
  rfl

theorem lowerNodes_cons (node : Node) (rest : List Node) (last : Nat) :
    lowerNodes (node :: rest) last =
      ((lowerNode node last).1 ++ (lowerNodes rest (lowerNode node last).2).1,
        (lowerNodes rest (lowerNode node last).2).2) :=
  rfl

theorem lowerBranch_some (nodes : List Node) (last : Nat) :
    lowerBranch (some nodes) last =
      (some (lowerNodes nodes last).1, (lowerNodes nodes last).2) :=
  rfl

theorem lowerCases_cons (pattern : Expression) (body : List Node)
    (rest : List (Expression × List Node)) (last : Nat) :
    lowerCases ((pattern, body) :: rest) last =
      ((pattern, (lowerNodes body last).1) ::
          (lowerCases rest (lowerNodes body last).2).1,
        (lowerCases rest (lowerNodes body last).2).2) :=
  rfl

/-! ## Declarations -/

/-- The statements in the body of a declaration; only HTML templates have
any. -/
def lowerDeclaration : Declaration → Supply (List Statement)
  | .html template => lowerNodes template.children
  | .style _ => return []
  | .script _ => return []

/-- Declarations in order, each with the statements in its body. -/
def lowerDeclarations :
    List Declaration → Supply (List (Declaration × List Statement))
  | [] => return []
  | declaration :: rest => do
      let body ← lowerDeclaration declaration
      return (declaration, body) :: (← lowerDeclarations rest)

/-- The function of a declaration with the statements in its body, behind a
blank line. -/
def layoutFunction : Declaration × List Statement → List Entry
  | (.html template, body) => .line .blank :: layoutHtml template body
  | (.style template, _) => .line .blank :: layoutStyle template
  | (.script template, _) => .line .blank :: layoutScript template

theorem lowerDeclarations_cons (declaration : Declaration)
    (rest : List Declaration) (last : Nat) :
    lowerDeclarations (declaration :: rest) last =
      ((declaration, (lowerDeclaration declaration last).1) ::
          (lowerDeclarations rest (lowerDeclaration declaration last).2).1,
        (lowerDeclarations rest (lowerDeclaration declaration last).2).2) :=
  rfl

theorem layoutDeclaration_eq (declaration : Declaration) (last : Nat) :
    layoutDeclaration declaration last =
      (layoutFunction (declaration, (lowerDeclaration declaration last).1),
        (lowerDeclaration declaration last).2) := by
  cases declaration <;> rfl

theorem layoutDeclarations_eq (declarations : List Declaration) (last : Nat) :
    layoutDeclarations declarations last =
      ((lowerDeclarations declarations last).1.flatMap layoutFunction,
        (lowerDeclarations declarations last).2) := by
  induction declarations generalizing last with
  | nil => rfl
  | cons declaration rest inductionHypothesis =>
      show ((layoutDeclaration declaration last).1 ++
          (layoutDeclarations rest (layoutDeclaration declaration last).2).1,
        (layoutDeclarations rest (layoutDeclaration declaration last).2).2) = _
      rw [layoutDeclaration_eq, inductionHypothesis]
      rfl

theorem map_fst_lowerDeclarations (declarations : List Declaration)
    (last : Nat) :
    (lowerDeclarations declarations last).1.map Prod.fst = declarations := by
  induction declarations generalizing last with
  | nil => rfl
  | cons declaration rest inductionHypothesis =>
      rw [lowerDeclarations_cons, List.map_cons, inductionHypothesis]

/-- The declarations of a file with the statements in their bodies, numbered
through the file. -/
def moduleBodies (file : TemplateFile) : List (Declaration × List Statement) :=
  (lowerDeclarations file.declarations 0).1

theorem layoutModule_eq (file : TemplateFile) (settings : Settings) :
    layoutModule file settings =
      layoutHeader file settings ++
        (moduleBodies file).flatMap layoutFunction ++
        [.plain 0 "\x7d"] := by
  show layoutHeader file settings ++
    (layoutDeclarations file.declarations 0).1 ++ [.plain 0 "\x7d"] = _
  rw [layoutDeclarations_eq]
  rfl

end Templating.Code

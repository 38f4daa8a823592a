import Templating.Proofs.Code.Acceptance
import Templating.Proofs.Template.Expressions

/-!
# Copies of expressions

Every expression of an accepted file is copied into exactly one line.  Class
lists and event handlers move ahead of the other attributes of their element;
all else keeps the order of the file.
-/

namespace Templating.Code

/-- The expressions among fragments, in order. -/
def copies (fragments : List Fragment) : List Expression :=
  fragments.filterMap fun
    | .copied expression => some expression
    | _ => none

@[simp]
theorem copies_append (first second : List Fragment) :
    copies (first ++ second) = copies first ++ copies second :=
  List.filterMap_append

/-- The expressions on an entry's line. -/
def Entry.copies (entry : Entry) : List Expression :=
  Code.copies entry.content

theorem copies_flatMap_content (entries : List Entry) :
    copies (entries.flatMap Entry.content) = entries.flatMap Entry.copies := by
  induction entries with
  | nil => rfl
  | cons entry rest inductionHypothesis =>
      simp only [List.flatMap_cons, copies_append, inductionHypothesis,
        Entry.copies]

theorem copies_content (line : Line) :
    copies line.content = copies line.fragments := by
  have indentation : copies (List.replicate line.depth (.words indentUnit)) =
      [] := by
    induction line.depth with
    | zero => rfl
    | succ depth inductionHypothesis =>
        rw [List.replicate_succ]
        exact inductionHypothesis
  rw [Line.content, copies_append, copies_append, indentation]
  exact List.append_nil _

@[simp]
theorem Entry.copies_of (depth : Nat) (fragments : List Fragment) :
    (Entry.of depth fragments).copies = Code.copies fragments :=
  copies_content ⟨depth, fragments⟩

@[simp]
theorem Entry.copies_plain (depth : Nat) (text : String) :
    (Entry.plain depth text).copies = [] :=
  copies_content (.plain depth text)

@[simp]
theorem Entry.copies_blank : (Entry.line .blank).copies = [] := rfl

/-! ## Expressions of statements -/

mutual

/-- The expressions of a statement and of its blocks, in order. -/
def Statement.expressions : Statement → List Expression
  | .bindClasses _ value => [value]
  | .bindScript _ value => [value]
  | .bindUrl _ value => [value]
  | .writeEscaped value => [value]
  | .renderComponent component => [component]
  | .loop header body => header :: blockExpressions body
  | .conditional condition thenBlock elseBlock =>
      condition :: blockExpressions thenBlock ++ elseExpressions elseBlock
  | .choice subject arms fallback =>
      subject :: armExpressions arms ++ elseExpressions fallback
  | _ => []

def blockExpressions : List Statement → List Expression
  | [] => []
  | statement :: rest => statement.expressions ++ blockExpressions rest

def elseExpressions : Option (List Statement) → List Expression
  | none => []
  | some block => blockExpressions block

def armExpressions : List (Expression × List Statement) → List Expression
  | [] => []
  | (pattern, block) :: rest =>
      pattern :: blockExpressions block ++ armExpressions rest

end

@[simp]
theorem blockExpressions_append (first second : List Statement) :
    blockExpressions (first ++ second) =
      blockExpressions first ++ blockExpressions second := by
  induction first with
  | nil => rfl
  | cons statement rest inductionHypothesis =>
      simp only [List.cons_append, blockExpressions, inductionHypothesis,
        List.append_assoc]

mutual

theorem copies_layoutStatement (depth : Nat) (statement : Statement) :
    (layoutStatement depth statement).flatMap Entry.copies =
      statement.expressions := by
  match statement with
  | .loop header body =>
      simp only [layoutStatement, List.cons_append, List.flatMap_cons,
        List.flatMap_append, Entry.copies_of, Entry.copies_plain,
        copies_layoutBlock (depth + 1) body]
      simp [copies, Statement.expressions]
  | .conditional condition thenBlock elseBlock =>
      simp only [layoutStatement, List.cons_append, List.flatMap_cons,
        List.flatMap_append, Entry.copies_of, Entry.copies_plain,
        copies_layoutBlock (depth + 1) thenBlock,
        copies_layoutElse depth elseBlock]
      simp [copies, Statement.expressions]
  | .choice subject arms fallback =>
      simp only [layoutStatement, List.cons_append, List.flatMap_cons,
        List.flatMap_append, Entry.copies_of, Entry.copies_plain,
        copies_layoutArms (depth + 1) arms,
        copies_layoutFallback (depth + 1) fallback]
      simp [copies, Statement.expressions]
  | .bindText target text
  | .bindClasses target value
  | .bindScript target value
  | .bindUrl target value
  | .writeText text
  | .writeEscaped value
  | .renderComponent component =>
      simp [layoutStatement, copies, Statement.expressions]
  | .writeTemporary source
  | .writeEscapedTemporary source
  | .writeCall source
  | .renderStyles source
  | .renderScripts sources =>
      simp [layoutStatement, Statement.expressions]
  | .rejected tag => rfl

theorem copies_layoutBlock (depth : Nat) (block : List Statement) :
    (layoutBlock depth block).flatMap Entry.copies =
      blockExpressions block := by
  match block with
  | [] => rfl
  | statement :: rest =>
      rw [layoutBlock, List.flatMap_append,
        copies_layoutStatement depth statement,
        copies_layoutBlock depth rest, blockExpressions]

theorem copies_layoutElse (depth : Nat) (block : Option (List Statement)) :
    (layoutElse depth block).flatMap Entry.copies =
      elseExpressions block := by
  match block with
  | none => rfl
  | some block =>
      rw [layoutElse, List.flatMap_cons, Entry.copies_plain,
        copies_layoutBlock (depth + 1) block]
      rfl

theorem copies_layoutArms (depth : Nat)
    (arms : List (Expression × List Statement)) :
    (layoutArms depth arms).flatMap Entry.copies = armExpressions arms := by
  match arms with
  | [] => rfl
  | (pattern, block) :: rest =>
      simp only [layoutArms, List.cons_append, List.flatMap_cons,
        List.flatMap_append, Entry.copies_of, Entry.copies_plain,
        copies_layoutBlock (depth + 1) block, copies_layoutArms depth rest]
      simp [copies, armExpressions]

theorem copies_layoutFallback (depth : Nat)
    (block : Option (List Statement)) :
    (layoutFallback depth block).flatMap Entry.copies =
      elseExpressions block := by
  match block with
  | none =>
      rw [layoutFallback, List.flatMap_cons, Entry.copies_plain]
      rfl
  | some block =>
      simp only [layoutFallback, List.cons_append, List.flatMap_cons,
        List.flatMap_append, Entry.copies_plain,
        copies_layoutBlock (depth + 1) block]
      simp [elseExpressions]

end

/-! ## Openings -/

/-- The expressions that are not bound ahead of the tag. -/
def PreparedAttribute.expressions : PreparedAttribute → List Expression
  | .direct item => item.expressions
  | .classList _ _ => []
  | .handler _ _ => []

/-- The expression of an attribute is bound ahead of the tag or left in
place. -/
theorem expressions_prepareAttribute (item : Attribute) (last : Nat) :
    blockExpressions (prepareAttribute item last).1.1 ++
        (prepareAttribute item last).1.2.expressions =
      item.expressions := by
  cases item with
  | computed name value =>
      by_cases isClass : name = "class"
      · subst isClass
        rfl
      · by_cases handler : Attribute.isHandlerName name = true
        · rw [prepareAttribute_handler value last isClass handler]
          rfl
        · rw [prepareAttribute_computed value last isClass handler]
          rfl
  | constant name value => rfl
  | flag name => rfl
  | conditional name condition => rfl

theorem expressions_prepareAttributes (attributes : List Attribute)
    (last : Nat) :
    (blockExpressions (prepareAttributes attributes last).1.1 ++
        (prepareAttributes attributes last).1.2.flatMap
          PreparedAttribute.expressions).Perm
      (attributes.flatMap Attribute.expressions) := by
  induction attributes generalizing last with
  | nil => exact .refl _
  | cons item rest inductionHypothesis =>
      have first := expressions_prepareAttribute item last
      have later := inductionHypothesis (prepareAttribute item last).2
      rw [prepareAttributes_cons]
      simp only [blockExpressions_append, List.flatMap_cons, ← first,
        List.append_assoc]
      -- The expression of `item` left in place moves in front of the later
      -- bindings.
      refine List.Perm.append_left _ ?_
      refine List.perm_append_comm_assoc _ _ _ |>.trans ?_
      exact later.append_left _

theorem expressions_renderHandlers (attributes : List PreparedAttribute) :
    blockExpressions (renderHandlers attributes) = [] := by
  unfold renderHandlers
  simp only
  split <;> rfl

theorem expressions_lowerAttribute (tag : String) (item : PreparedAttribute)
    (last : Nat) :
    blockExpressions (lowerAttribute tag item last).1 = item.expressions := by
  cases item with
  | direct item =>
      cases item with
      | computed name value =>
          by_cases isUrl : (tag = "a" && name = "href") = true
          · have both : tag = "a" ∧ name = "href" := by
              simpa using isUrl
            rcases both with ⟨rfl, rfl⟩
            rfl
          · rw [lowerAttribute_computed value last isUrl]
            rfl
      | constant name value => rfl
      | flag name => rfl
      | conditional name condition => rfl
  | classList name source => rfl
  | handler name source => rfl

theorem expressions_lowerAttributes (tag : String)
    (attributes : List PreparedAttribute) (last : Nat) :
    blockExpressions (lowerAttributes tag attributes last).1 =
      attributes.flatMap PreparedAttribute.expressions := by
  induction attributes generalizing last with
  | nil => rfl
  | cons item rest inductionHypothesis =>
      rw [lowerAttributes_cons, blockExpressions_append,
        expressions_lowerAttribute, inductionHypothesis, List.flatMap_cons]

theorem expressions_lowerOpening (tag : String) (attributes : List Attribute)
    (last : Nat) :
    (blockExpressions (lowerOpening tag attributes last).1).Perm
      (attributes.flatMap Attribute.expressions) := by
  cases attributes with
  | nil => exact .refl _
  | cons item rest =>
      have prepared := expressions_prepareAttributes (item :: rest) last
      rw [lowerOpening_cons]
      simp only [blockExpressions_append, expressions_renderHandlers,
        expressions_lowerAttributes, blockExpressions, Statement.expressions,
        List.append_nil]
      exact prepared

/-! ## Nodes -/

mutual

theorem expressions_lowerNode (node : Node) (last : Nat)
    (accepted : node.rejectedTag? = none) :
    (blockExpressions (lowerNode node last).1).Perm node.expressions := by
  match node with
  | .element tag true attributes [] =>
      rw [lowerNode_void]
      simpa [Node.expressions, nodeExpressions] using
        expressions_lowerOpening tag attributes last
  | .element tag true attributes (child :: children) =>
      simp [Node.rejectedTag?] at accepted
  | .element tag false attributes children =>
      have below : rejectedIn? children = none := by
        simpa [Node.rejectedTag?] using accepted
      rw [lowerNode_element]
      simp only [blockExpressions_append, blockExpressions,
        Statement.expressions, List.append_nil, Node.expressions]
      exact (expressions_lowerOpening tag attributes last).append
        (expressions_lowerNodes children _ below)
  | .loop header body =>
      rw [lowerNode_loop]
      simp only [blockExpressions, Statement.expressions, List.append_nil,
        Node.expressions]
      exact (expressions_lowerNodes body last accepted).cons header
  | .conditional condition thenBranch elseBranch =>
      simp only [Node.rejectedTag?, Option.or_eq_none_iff] at accepted
      rw [lowerNode_conditional]
      simp only [blockExpressions, Statement.expressions, List.append_nil,
        Node.expressions]
      exact ((expressions_lowerNodes thenBranch last accepted.1).cons
        condition).append (expressions_lowerBranch elseBranch _ accepted.2)
  | .choice subject cases fallback =>
      simp only [Node.rejectedTag?, Option.or_eq_none_iff] at accepted
      rw [lowerNode_choice]
      simp only [blockExpressions, Statement.expressions, List.append_nil,
        Node.expressions]
      exact ((expressions_lowerCases cases last accepted.1).cons
        subject).append (expressions_lowerBranch fallback _ accepted.2)
  | .docType value => exact .refl _
  | .text value => exact .refl _
  | .whitespace value => exact .refl _
  | .interpolation value => exact .refl _
  | .call component => exact .refl _

theorem expressions_lowerNodes (nodes : List Node) (last : Nat)
    (accepted : rejectedIn? nodes = none) :
    (blockExpressions (lowerNodes nodes last).1).Perm
      (nodeExpressions nodes) := by
  match nodes with
  | [] => exact .refl _
  | node :: rest =>
      simp only [rejectedIn?, Option.or_eq_none_iff] at accepted
      rw [lowerNodes_cons, blockExpressions_append, nodeExpressions]
      exact (expressions_lowerNode node last accepted.1).append
        (expressions_lowerNodes rest _ accepted.2)

theorem expressions_lowerBranch (branch : Option (List Node)) (last : Nat)
    (accepted : rejectedInBranch? branch = none) :
    (elseExpressions (lowerBranch branch last).1).Perm
      (branchExpressions branch) := by
  match branch with
  | none => exact .refl _
  | some nodes =>
      rw [lowerBranch_some]
      exact expressions_lowerNodes nodes last accepted

theorem expressions_lowerCases (cases : List (Expression × List Node))
    (last : Nat) (accepted : rejectedInCases? cases = none) :
    (armExpressions (lowerCases cases last).1).Perm
      (caseExpressions cases) := by
  match cases with
  | [] => exact .refl _
  | (pattern, body) :: rest =>
      simp only [rejectedInCases?, Option.or_eq_none_iff] at accepted
      rw [lowerCases_cons]
      exact ((expressions_lowerNodes body last accepted.1).cons
        pattern).append (expressions_lowerCases rest _ accepted.2)

end

end Templating.Code

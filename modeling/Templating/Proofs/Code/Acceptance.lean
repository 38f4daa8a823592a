import Templating.Code.Generation
import Templating.Proofs.Code.Closed

/-!
# Accepted files

The lines of a file hold a mark for every element that no code can be given
for.  The first mark stands for the first void element with children in the
order of the document, so a file is generated exactly if it has no such
element.
-/

namespace Templating.Code

/-- The fragments of an entry. -/
def Entry.content : Entry → List Fragment
  | .line whole => whole.content
  | .rejected _ => []

theorem acceptedFragments_eq {entries : List Entry}
    (accepted : firstRejected? entries = none) :
    acceptedFragments entries = entries.flatMap Entry.content := by
  induction entries with
  | nil => rfl
  | cons entry rest inductionHypothesis =>
      cases entry with
      | line line =>
          have later : firstRejected? rest = none := accepted
          simp only [acceptedFragments, List.flatMap_cons, Entry.content,
            inductionHypothesis later]
      | rejected tag => simp [firstRejected?] at accepted

theorem firstRejected?_append (first second : List Entry) :
    firstRejected? (first ++ second) =
      (firstRejected? first).or (firstRejected? second) := by
  induction first with
  | nil => rfl
  | cons entry rest inductionHypothesis =>
      cases entry with
      | line line => exact inductionHypothesis
      | rejected tag => rfl

@[simp]
theorem firstRejected?_of (depth : Nat) (fragments : List Fragment)
    (rest : List Entry) :
    firstRejected? (.of depth fragments :: rest) = firstRejected? rest :=
  rfl

@[simp]
theorem firstRejected?_plain (depth : Nat) (text : String)
    (rest : List Entry) :
    firstRejected? (.plain depth text :: rest) = firstRejected? rest :=
  rfl

theorem layoutBlock_append (depth : Nat) (first second : List Statement) :
    layoutBlock depth (first ++ second) =
      layoutBlock depth first ++ layoutBlock depth second := by
  induction first with
  | nil => rfl
  | cons statement rest inductionHypothesis =>
      simp only [List.cons_append, layoutBlock, inductionHypothesis,
        List.append_assoc]

/-! ## Closed blocks -/

mutual

theorem firstRejected?_layoutStatement (depth : Nat) (statement : Statement)
    (available : List Temporary) (closed : statement.Closed available) :
    firstRejected? (layoutStatement depth statement) = none := by
  match statement with
  | .loop header body =>
      simp only [layoutStatement, List.cons_append, firstRejected?_of,
        firstRejected?_append, firstRejected?_plain,
        firstRejected?_layoutBlock (depth + 1) body [] closed]
      rfl
  | .conditional condition thenBlock elseBlock =>
      simp only [layoutStatement, List.cons_append, firstRejected?_of,
        firstRejected?_append, firstRejected?_plain,
        firstRejected?_layoutBlock (depth + 1) thenBlock [] closed.1,
        firstRejected?_layoutElse depth elseBlock closed.2]
      rfl
  | .choice subject arms fallback =>
      simp only [layoutStatement, List.cons_append, firstRejected?_of,
        firstRejected?_append, firstRejected?_plain,
        firstRejected?_layoutArms (depth + 1) arms closed.1,
        firstRejected?_layoutFallback (depth + 1) fallback closed.2]
      rfl
  | .rejected tag => exact closed.elim
  | .bindText target text => rfl
  | .bindClasses target value => rfl
  | .bindScript target value => rfl
  | .bindUrl target value => rfl
  | .writeText text => rfl
  | .writeTemporary source => rfl
  | .writeEscaped value => rfl
  | .writeEscapedTemporary source => rfl
  | .writeCall source => rfl
  | .renderStyles source => rfl
  | .renderScripts sources => rfl
  | .renderComponent component => rfl

theorem firstRejected?_layoutBlock (depth : Nat) (block : List Statement)
    (available : List Temporary) (closed : BlockClosed available block) :
    firstRejected? (layoutBlock depth block) = none := by
  match block with
  | [] => rfl
  | statement :: rest =>
      rw [layoutBlock, firstRejected?_append,
        firstRejected?_layoutStatement depth statement available closed.1,
        firstRejected?_layoutBlock depth rest _ closed.2]
      rfl

theorem firstRejected?_layoutElse (depth : Nat)
    (block : Option (List Statement)) (closed : ElseClosed block) :
    firstRejected? (layoutElse depth block) = none := by
  match block with
  | none => rfl
  | some block =>
      rw [layoutElse, firstRejected?_plain]
      exact firstRejected?_layoutBlock (depth + 1) block [] closed

theorem firstRejected?_layoutArms (depth : Nat)
    (arms : List (Expression × List Statement)) (closed : ArmsClosed arms) :
    firstRejected? (layoutArms depth arms) = none := by
  match arms with
  | [] => rfl
  | (pattern, block) :: rest =>
      simp only [layoutArms, List.cons_append, firstRejected?_of,
        firstRejected?_append, firstRejected?_plain,
        firstRejected?_layoutBlock (depth + 1) block [] closed.1,
        firstRejected?_layoutArms depth rest closed.2]
      rfl

theorem firstRejected?_layoutFallback (depth : Nat)
    (block : Option (List Statement)) (closed : ElseClosed block) :
    firstRejected? (layoutFallback depth block) = none := by
  match block with
  | none => rfl
  | some block =>
      simp only [layoutFallback, List.cons_append, firstRejected?_plain,
        firstRejected?_append,
        firstRejected?_layoutBlock (depth + 1) block [] closed]
      rfl

end

/-! ## Lowered nodes -/

mutual

theorem firstRejected?_lowerNode (depth : Nat) (node : Node) (last : Nat) :
    firstRejected? (layoutBlock depth (lowerNode node last).1) =
      node.rejectedTag? := by
  match node with
  | .element tag true attributes [] =>
      rw [lowerNode_void]
      exact firstRejected?_layoutBlock depth _ []
        (closed_lowerOpening tag attributes last)
  | .element tag true attributes (child :: children) => rfl
  | .element tag false attributes children =>
      have opening := firstRejected?_layoutBlock depth _ []
        (closed_lowerOpening tag attributes last)
      rw [lowerNode_element, layoutBlock_append, layoutBlock_append,
        firstRejected?_append, firstRejected?_append, opening,
        firstRejected?_lowerNodes depth children]
      simp [Node.rejectedTag?, layoutBlock, layoutStatement, firstRejected?]
  | .loop header body =>
      rw [lowerNode_loop]
      simp only [layoutBlock, layoutStatement, List.cons_append,
        List.append_nil, firstRejected?_of, firstRejected?_append,
        firstRejected?_plain, firstRejected?_lowerNodes (depth + 1) body]
      simp [Node.rejectedTag?, firstRejected?]
  | .conditional condition thenBranch elseBranch =>
      rw [lowerNode_conditional]
      simp only [layoutBlock, layoutStatement, List.cons_append,
        List.append_nil, firstRejected?_of, firstRejected?_append,
        firstRejected?_plain, firstRejected?_lowerNodes (depth + 1) thenBranch,
        firstRejected?_lowerElse depth elseBranch]
      simp [Node.rejectedTag?, firstRejected?]
  | .choice subject cases fallback =>
      rw [lowerNode_choice]
      simp only [layoutBlock, layoutStatement, List.cons_append,
        List.append_nil, firstRejected?_of, firstRejected?_append,
        firstRejected?_plain, firstRejected?_lowerCases (depth + 1) cases,
        firstRejected?_lowerFallback (depth + 1) fallback]
      simp [Node.rejectedTag?, firstRejected?]
  | .docType value => rfl
  | .text value => rfl
  | .whitespace value => rfl
  | .interpolation value => rfl
  | .call component => rfl

theorem firstRejected?_lowerNodes (depth : Nat) (nodes : List Node)
    (last : Nat) :
    firstRejected? (layoutBlock depth (lowerNodes nodes last).1) =
      rejectedIn? nodes := by
  match nodes with
  | [] => rfl
  | node :: rest =>
      rw [lowerNodes_cons, layoutBlock_append, firstRejected?_append,
        firstRejected?_lowerNode depth node,
        firstRejected?_lowerNodes depth rest, rejectedIn?]

theorem firstRejected?_lowerElse (depth : Nat) (branch : Option (List Node))
    (last : Nat) :
    firstRejected? (layoutElse depth (lowerBranch branch last).1) =
      rejectedInBranch? branch := by
  match branch with
  | none => rfl
  | some nodes =>
      rw [lowerBranch_some, layoutElse, firstRejected?_plain]
      exact firstRejected?_lowerNodes (depth + 1) nodes last

theorem firstRejected?_lowerFallback (depth : Nat)
    (branch : Option (List Node)) (last : Nat) :
    firstRejected? (layoutFallback depth (lowerBranch branch last).1) =
      rejectedInBranch? branch := by
  match branch with
  | none => rfl
  | some nodes =>
      rw [lowerBranch_some]
      simp only [layoutFallback, List.cons_append, firstRejected?_plain,
        firstRejected?_append, firstRejected?_lowerNodes (depth + 1) nodes]
      simp [rejectedInBranch?, firstRejected?]

theorem firstRejected?_lowerCases (depth : Nat)
    (cases : List (Expression × List Node)) (last : Nat) :
    firstRejected? (layoutArms depth (lowerCases cases last).1) =
      rejectedInCases? cases := by
  match cases with
  | [] => rfl
  | (pattern, body) :: rest =>
      rw [lowerCases_cons]
      simp only [layoutArms, List.cons_append, firstRejected?_of,
        firstRejected?_append, firstRejected?_plain,
        firstRejected?_lowerNodes (depth + 1) body,
        firstRejected?_lowerCases depth rest]
      rfl

end

/-! ## Files -/

theorem firstRejected?_map_line (lines : List Line) :
    firstRejected? (lines.map Entry.line) = none := by
  induction lines with
  | nil => rfl
  | cons line rest inductionHypothesis => exact inductionHypothesis

theorem firstRejected?_layoutHeader (file : TemplateFile)
    (settings : Settings) :
    firstRejected? (layoutHeader file settings) = none := by
  have imports : firstRejected?
      (file.imports.map fun path =>
        Entry.of 1 [.words "use ", .copied path, .words ";"]) = none := by
    have lines := firstRejected?_map_line (file.imports.map fun path =>
      ⟨1, [.words "use ", .copied path, .words ";"]⟩)
    rwa [List.map_map] at lines
  unfold layoutHeader layoutBanner layoutImports
  simp only [firstRejected?_append, imports]
  cases file.hasHtml <;> cases file.hasStyle <;> rfl

theorem firstRejected?_layoutBuilder (template : StyleTemplate) :
    firstRejected? (layoutBuilder template) = none := by
  have properties : firstRejected?
      ((template.properties.map lowerProperty).map
        (layoutStyleStatement 2)) = none := by
    induction template.properties with
    | nil => rfl
    | cons property rest inductionHypothesis =>
        cases property <;> exact inductionHypothesis
  simp only [layoutBuilder, List.cons_append, firstRejected?_plain,
    firstRejected?_append, properties]
  rfl

theorem firstRejected?_layoutFunction (declaration : Declaration)
    (last : Nat) :
    firstRejected? (layoutFunction
        (declaration, (lowerDeclaration declaration last).1)) =
      declaration.rejectedTag? := by
  cases declaration with
  | html template =>
      show firstRejected? (.line .blank ::
        layoutHtml template (lowerNodes template.children last).1) = _
      unfold layoutHtml
      have opening : firstRejected?
          (htmlSignature template :: closureOpening :: closureStart) = none := rfl
      have ending : firstRejected?
          [closureResult, closureEnd, functionEnd] = none := rfl
      simp only [firstRejected?, firstRejected?_append, opening, ending,
        firstRejected?_lowerNodes 3 template.children, Option.none_or,
        Option.or_none, Declaration.rejectedTag?]
  | style template =>
      show firstRejected? (.line .blank :: layoutStyle template) = _
      unfold layoutStyle
      simp only [firstRejected?, firstRejected?_append]
      show (firstRejected? (layoutBuilder template)).or none = none
      rw [firstRejected?_layoutBuilder, Option.or_none]
  | script template => rfl

theorem firstRejected?_moduleBodies (declarations : List Declaration)
    (last : Nat) :
    firstRejected?
        ((lowerDeclarations declarations last).1.flatMap layoutFunction) =
      rejectedInDeclarations? declarations := by
  induction declarations generalizing last with
  | nil => rfl
  | cons declaration rest inductionHypothesis =>
      rw [lowerDeclarations_cons, List.flatMap_cons, firstRejected?_append,
        firstRejected?_layoutFunction, inductionHypothesis]
      rfl

/-- The first mark among the lines of a file stands for the first rejected
element of the file. -/
theorem firstRejected?_layoutModule (file : TemplateFile)
    (settings : Settings) :
    firstRejected? (layoutModule file settings) = file.rejectedTag? := by
  rw [layoutModule_eq, firstRejected?_append, firstRejected?_append,
    firstRejected?_layoutHeader, moduleBodies, firstRejected?_moduleBodies]
  simp [TemplateFile.rejectedTag?, firstRejected?]

end Templating.Code

namespace Templating

open Code

section Generation

variable {file : TemplateFile} {settings : Settings} {generated : Generated}

theorem generate_of_accepted (accepted : file.rejectedTag? = none) :
    generate file settings = .ok
      ⟨fragmentsText ((layoutModule file settings).flatMap Entry.content),
        ⟨(mappingsFrom .origin
          ((layoutModule file settings).flatMap Entry.content)).toArray⟩⟩ := by
  have whole : firstRejected? (layoutModule file settings) = none := by
    rw [firstRejected?_layoutModule, accepted]
  simp only [generate, whole, acceptedFragments_eq whole]

/-- What generation gives for a file that is accepted. -/
theorem generate_eq_ok (ok : generate file settings = .ok generated) :
    file.rejectedTag? = none ∧
      generated.code = fragmentsText
        ((layoutModule file settings).flatMap Entry.content) ∧
      generated.map.mappings.toList = mappingsFrom .origin
        ((layoutModule file settings).flatMap Entry.content) := by
  cases rejected : file.rejectedTag? with
  | some tag =>
      rw [generate, firstRejected?_layoutModule] at ok
      simp [rejected] at ok
  | none =>
      rw [generate_of_accepted rejected, Except.ok.injEq] at ok
      rw [← ok]
      refine ⟨rfl, ?_, ?_⟩
      · dsimp only
      · dsimp only

end Generation

end Templating

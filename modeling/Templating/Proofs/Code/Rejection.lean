import Templating.Proofs.Code.Acceptance
import Templating.Proofs.Code.Streaming
import Templating.Proofs.Template.Order

/-!
# Rejected files

Generation stops at the first void element with children and names its tag;
nothing else keeps a file from being generated.  Of the element itself nothing
has been written by then: what has been written is the start of what is written
for every file that has something else in its place, or nothing at all.
-/

namespace Templating.Code

/-! ## Entries up to a mark -/

/-- What stands behind a mark is not written. -/
theorem acceptedFragments_append (first second : List Entry) :
    acceptedFragments (first ++ second) =
      acceptedFragments first ++
        match firstRejected? first with
        | none => acceptedFragments second
        | some _ => [] := by
  induction first with
  | nil => rfl
  | cons entry rest inductionHypothesis =>
      cases entry with
      | line line =>
          rw [List.cons_append, acceptedFragments, acceptedFragments,
            inductionHypothesis, List.append_assoc]
          rfl
      | rejected tag => rfl

theorem acceptedFragments_starts (first second : List Entry) :
    acceptedFragments first <+: acceptedFragments (first ++ second) := by
  rw [acceptedFragments_append]
  exact List.prefix_append _ _

/-- Up to their first mark the entries are those that others start with;
without a mark they are the others. -/
structure AgreesUpToMark (entries others : List Entry) : Prop where
  same : firstRejected? entries = none → entries = others
  start : acceptedFragments entries <+: acceptedFragments others

namespace AgreesUpToMark

variable {entries others rest moreOthers : List Entry}

theorem refl (entries : List Entry) : AgreesUpToMark entries entries :=
  ⟨fun _ => rfl, List.prefix_rfl⟩

theorem rejected (tag : String) (others : List Entry) :
    AgreesUpToMark [.rejected tag] others :=
  ⟨nofun, List.nil_prefix⟩

/-- What stands behind a mark does not matter. -/
theorem append (agrees : AgreesUpToMark entries others)
    (behind : firstRejected? entries = none →
      AgreesUpToMark rest moreOthers) :
    AgreesUpToMark (entries ++ rest) (others ++ moreOthers) := by
  cases mark : firstRejected? entries with
  | none =>
      obtain rfl := agrees.same mark
      constructor
      · intro accepted
        rw [firstRejected?_append, mark, Option.none_or] at accepted
        rw [(behind mark).same accepted]
      · simp only [acceptedFragments_append, mark]
        exact (List.prefix_append_right_inj _).mpr (behind mark).start
  | some tag =>
      constructor
      · intro accepted
        rw [firstRejected?_append, mark, Option.some_or] at accepted
        cases accepted
      · rw [acceptedFragments_append, mark, List.append_nil]
        exact agrees.start.trans (acceptedFragments_starts _ _)

theorem append_same (agrees : AgreesUpToMark entries others)
    (rest : List Entry) :
    AgreesUpToMark (entries ++ rest) (others ++ rest) :=
  agrees.append fun _ => refl rest

theorem same_append (before : List Entry)
    (agrees : AgreesUpToMark entries others) :
    AgreesUpToMark (before ++ entries) (before ++ others) :=
  (refl before).append fun _ => agrees

theorem same_cons (entry : Entry) (agrees : AgreesUpToMark entries others) :
    AgreesUpToMark (entry :: entries) (entry :: others) :=
  agrees.same_append [entry]

end AgreesUpToMark

/-! ## Nodes -/

section Replacing

variable (substitute : Node → Node)

mutual

theorem agrees_lowerNode (depth : Nat) (node : Node) (last : Nat) :
    AgreesUpToMark (layoutBlock depth (lowerNode node last).1)
      (layoutBlock depth
        (lowerNode (node.replaceRejected substitute) last).1) := by
  match node with
  | .element tag true attributes [] => exact .refl _
  | .element tag true attributes (child :: children) => exact .rejected tag _
  | .element tag false attributes children =>
      have replaced :
          (Node.element tag false attributes children).replaceRejected
              substitute =
            .element tag false attributes
              (replaceRejectedIn substitute children) := rfl
      rw [replaced, lowerNode_element, lowerNode_element, layoutBlock_append,
        layoutBlock_append, layoutBlock_append, layoutBlock_append]
      exact (AgreesUpToMark.same_append _
        (agrees_lowerNodes depth children _)).append_same _
  | .loop header body =>
      rw [Node.replaceRejected, lowerNode_loop, lowerNode_loop]
      simp only [layoutBlock, layoutStatement, List.append_nil]
      exact ((agrees_lowerNodes (depth + 1) body last).same_cons _).append_same _
  | .conditional condition thenBranch elseBranch =>
      rw [Node.replaceRejected, lowerNode_conditional, lowerNode_conditional]
      simp only [layoutBlock, layoutStatement, List.append_nil]
      refine AgreesUpToMark.append_same (.append (.same_cons _
        (agrees_lowerNodes (depth + 1) thenBranch last)) ?_) _
      intro accepted
      rw [firstRejected?_of, firstRejected?_lowerNodes] at accepted
      rw [replaceRejectedIn_eq substitute thenBranch accepted]
      exact agrees_lowerElse depth elseBranch _
  | .choice subject cases fallback =>
      rw [Node.replaceRejected, lowerNode_choice, lowerNode_choice]
      simp only [layoutBlock, layoutStatement, List.append_nil]
      refine AgreesUpToMark.append_same (.append (.same_cons _
        (agrees_lowerCases (depth + 1) cases last)) ?_) _
      intro accepted
      rw [firstRejected?_of, firstRejected?_lowerCases] at accepted
      rw [replaceRejectedInCases_eq substitute cases accepted]
      exact agrees_lowerFallback (depth + 1) fallback _
  | .docType value => exact .refl _
  | .text value => exact .refl _
  | .whitespace value => exact .refl _
  | .interpolation value => exact .refl _
  | .call component => exact .refl _

theorem agrees_lowerNodes (depth : Nat) (nodes : List Node) (last : Nat) :
    AgreesUpToMark (layoutBlock depth (lowerNodes nodes last).1)
      (layoutBlock depth
        (lowerNodes (replaceRejectedIn substitute nodes) last).1) := by
  match nodes with
  | [] => exact .refl _
  | node :: rest =>
      rw [replaceRejectedIn, lowerNodes_cons, lowerNodes_cons,
        layoutBlock_append, layoutBlock_append]
      refine (agrees_lowerNode depth node last).append ?_
      -- Only an accepted node leaves the same number to the nodes behind it.
      intro accepted
      rw [firstRejected?_lowerNode] at accepted
      rw [node.replaceRejected_eq substitute accepted]
      exact agrees_lowerNodes depth rest _

theorem agrees_lowerElse (depth : Nat) (branch : Option (List Node))
    (last : Nat) :
    AgreesUpToMark (layoutElse depth (lowerBranch branch last).1)
      (layoutElse depth
        (lowerBranch (replaceRejectedInBranch substitute branch) last).1) := by
  match branch with
  | none => exact .refl _
  | some nodes =>
      rw [replaceRejectedInBranch, lowerBranch_some, lowerBranch_some,
        layoutElse, layoutElse]
      exact (agrees_lowerNodes (depth + 1) nodes last).same_cons _

theorem agrees_lowerFallback (depth : Nat) (branch : Option (List Node))
    (last : Nat) :
    AgreesUpToMark (layoutFallback depth (lowerBranch branch last).1)
      (layoutFallback depth
        (lowerBranch (replaceRejectedInBranch substitute branch) last).1) := by
  match branch with
  | none => exact .refl _
  | some nodes =>
      rw [replaceRejectedInBranch, lowerBranch_some, lowerBranch_some,
        layoutFallback, layoutFallback]
      exact ((agrees_lowerNodes (depth + 1) nodes last).same_cons _).append_same _

theorem agrees_lowerCases (depth : Nat)
    (cases : List (Expression × List Node)) (last : Nat) :
    AgreesUpToMark (layoutArms depth (lowerCases cases last).1)
      (layoutArms depth
        (lowerCases (replaceRejectedInCases substitute cases) last).1) := by
  match cases with
  | [] => exact .refl _
  | (pattern, body) :: rest =>
      rw [replaceRejectedInCases, lowerCases_cons, lowerCases_cons, layoutArms,
        layoutArms]
      refine .append (.same_cons _
        (agrees_lowerNodes (depth + 1) body last)) ?_
      intro accepted
      rw [firstRejected?_of, firstRejected?_lowerNodes] at accepted
      rw [replaceRejectedIn_eq substitute body accepted]
      exact (agrees_lowerCases depth rest _).same_cons _

end

/-! ## Files -/

theorem agrees_layoutFunction (declaration : Declaration) (last : Nat) :
    AgreesUpToMark
      (layoutFunction (declaration, (lowerDeclaration declaration last).1))
      (layoutFunction (declaration.replaceRejected substitute,
        (lowerDeclaration (declaration.replaceRejected substitute)
          last).1)) := by
  cases declaration with
  | html template =>
      exact ((AgreesUpToMark.same_append _
        (agrees_lowerNodes substitute 3 template.children last)).append_same
          _).same_cons _
  | style template => exact .refl _
  | script template => exact .refl _

theorem agrees_lowerDeclarations (declarations : List Declaration)
    (last : Nat) :
    AgreesUpToMark
      ((lowerDeclarations declarations last).1.flatMap layoutFunction)
      ((lowerDeclarations
        (declarations.map (·.replaceRejected substitute))
          last).1.flatMap layoutFunction) := by
  induction declarations generalizing last with
  | nil => exact .refl _
  | cons declaration rest inductionHypothesis =>
      rw [List.map_cons, lowerDeclarations_cons, lowerDeclarations_cons,
        List.flatMap_cons, List.flatMap_cons]
      refine (agrees_layoutFunction substitute declaration last).append ?_
      intro accepted
      rw [firstRejected?_layoutFunction] at accepted
      rw [declaration.replaceRejected_eq substitute accepted]
      exact inductionHypothesis _

theorem layoutHeader_replaceRejected (file : TemplateFile)
    (settings : Settings) :
    layoutHeader (file.replaceRejected substitute) settings =
      layoutHeader file settings := by
  have anyOfKind (isKind : Declaration → Bool)
      (same : ∀ declaration : Declaration,
        isKind (declaration.replaceRejected substitute) =
          isKind declaration) :
      (file.replaceRejected substitute).declarations.any isKind =
        file.declarations.any isKind := by
    rw [TemplateFile.replaceRejected, List.any_map]
    congr 1
    funext declaration
    exact same declaration
  have hasHtml : (file.replaceRejected substitute).hasHtml = file.hasHtml :=
    anyOfKind _ (by rintro (_ | _ | _) <;> rfl)
  have hasStyle :
      (file.replaceRejected substitute).hasStyle = file.hasStyle :=
    anyOfKind _ (by rintro (_ | _ | _) <;> rfl)
  have imports : layoutImports (file.replaceRejected substitute) settings =
      layoutImports file settings := by
    rw [layoutImports, layoutImports, hasHtml, hasStyle]
    rfl
  rw [layoutHeader, layoutHeader, imports]
  rfl

theorem agrees_layoutModule (file : TemplateFile) (settings : Settings) :
    AgreesUpToMark (layoutModule file settings)
      (layoutModule (file.replaceRejected substitute) settings) := by
  rw [layoutModule_eq, layoutModule_eq, layoutHeader_replaceRejected]
  exact (AgreesUpToMark.same_append _
    (agrees_lowerDeclarations substitute file.declarations 0)).append_same _

end Replacing

end Templating.Code

namespace Templating

open Code

section Rejection

variable (file : TemplateFile) (settings : Settings)

/-- What is written of a file starts every file that has other nodes in place of
the rejected elements. -/
theorem acceptedText_starts (substitute : Node → Node) :
    ∃ rest, acceptedText (file.replaceRejected substitute) settings =
      acceptedText file settings ++ rest := by
  rcases (agrees_layoutModule substitute file settings).start with
    ⟨fragments, same⟩
  refine ⟨fragmentsText fragments, ?_⟩
  rw [acceptedText, acceptedText, ← same, fragmentsText_append]

theorem wholeResult_eq_error {tag : String} :
    wholeResult file settings = .error (.voidElementChildren tag) ↔
      file.rejectedTag? = some tag := by
  rw [wholeResult, generate, firstRejected?_layoutModule]
  cases file.rejectedTag? with
  | none => simp [Except.map]
  | some other => simp [Except.map]

theorem wholeResult_eq_ok :
    (∃ map, wholeResult file settings = .ok map) ↔
      file.rejectedTag? = none := by
  rw [wholeResult, generate, firstRejected?_layoutModule]
  cases file.rejectedTag? with
  | none => simp [Except.map]
  | some other => simp [Except.map]

/-- Generating into a sink that takes everything fails exactly if a node of the
file is a void element with children, and then with the tag of the first such
node; every other file is generated.  Nothing of the element itself has been
written: whatever nodes stand in place of the rejected ones, a node that writes
nothing among them, what was written is the start of what is written then. -/
theorem generateInto_rejects_first :
    let outcome := generateInto file settings .unlimited
    ((∃ tag, outcome.1 = .error (.voidElementChildren tag)) ↔
      ∃ node ∈ file.nodes, node.IsRejected) ∧
    (∀ tag, outcome.1 = .error (.voidElementChildren tag) ↔
      ∃ before attributes children after,
        file.nodes =
          before ++ .element tag true attributes children :: after ∧
        children ≠ [] ∧ ∀ node ∈ before, ¬node.IsRejected) ∧
    ((∃ map, outcome.1 = .ok map) ↔
      ∀ node ∈ file.nodes, ¬node.IsRejected) ∧
    (∀ substitute : Node → Node,
      outcome.2.bytes <+:
        (generateInto (file.replaceRejected substitute) settings
          .unlimited).2.bytes) := by
  intro outcome
  have result : outcome.1 = wholeResult file settings :=
    (generateInto_unlimited file settings).1
  rw [result]
  refine ⟨?_, ?_, ?_, ?_⟩
  · simp only [wholeResult_eq_error, ← Option.isSome_iff_exists]
    rw [Option.isSome_iff_ne_none, ne_eq, TemplateFile.rejectedTag?_eq_none]
    simp only [not_forall, not_not, exists_prop]
  · intro tag
    rw [wholeResult_eq_error, TemplateFile.rejectedTag?_eq_some]
  · rw [wholeResult_eq_ok, TemplateFile.rejectedTag?_eq_none]
  · intro substitute
    rcases acceptedText_starts file settings substitute with ⟨rest, text⟩
    rw [(generateInto_unlimited file settings).2,
      (generateInto_unlimited (file.replaceRejected substitute) settings).2,
      text, Text.bytes_append]
    exact List.prefix_append _ _

end Rejection

end Templating

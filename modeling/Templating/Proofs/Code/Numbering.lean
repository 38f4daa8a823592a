import Mathlib.Data.List.Nodup
import Templating.Proofs.Code.Supply

/-!
# Numbering of temporaries

Lowering numbers temporaries in the order in which their statements stand, and
a declaration goes on where the one before it ended.  So the temporaries bound
in a file are numbered from one on without a gap, and no name is bound twice.
-/

namespace Templating.Code

/-- The temporary that a statement binds for the statements behind it. -/
def Statement.bound : Statement → List Temporary
  | .bindText target _ => [target]
  | .bindClasses target _ => [target]
  | .bindScript target _ => [target]
  | .bindUrl target _ => [target]
  | _ => []

mutual

/-- All temporaries that a statement binds, those inside its blocks
included. -/
def Statement.targets : Statement → List Temporary
  | .loop _ body => blockTargets body
  | .conditional _ thenBlock elseBlock =>
      blockTargets thenBlock ++ elseTargets elseBlock
  | .choice _ arms fallback => armTargets arms ++ elseTargets fallback
  | statement => statement.bound

/-- All temporaries that statements bind, in order. -/
def blockTargets : List Statement → List Temporary
  | [] => []
  | statement :: rest => statement.targets ++ blockTargets rest

/-- The temporaries of a block that may be missing. -/
def elseTargets : Option (List Statement) → List Temporary
  | none => []
  | some block => blockTargets block

/-- The temporaries of the blocks of arms. -/
def armTargets : List (Expression × List Statement) → List Temporary
  | [] => []
  | (_, block) :: rest => blockTargets block ++ armTargets rest

end

@[simp]
theorem blockTargets_append (first second : List Statement) :
    blockTargets (first ++ second) =
      blockTargets first ++ blockTargets second := by
  induction first with
  | nil => rfl
  | cons statement rest inductionHypothesis =>
      simp only [List.cons_append, blockTargets, inductionHypothesis,
        List.append_assoc]

/-- The temporaries behind one number up to another. -/
def numbered (last next : Nat) : List Temporary :=
  (List.range' (last + 1) (next - last)).map Temporary.mk

@[simp]
theorem numbered_self (last : Nat) : numbered last last = [] := by
  simp [numbered]

@[simp]
theorem numbered_succ (last : Nat) : numbered last (last + 1) = [⟨last + 1⟩] := by
  simp [numbered]

theorem numbered_append {first middle next : Nat}
    (lower : first ≤ middle) (upper : middle ≤ next) :
    numbered first middle ++ numbered middle next = numbered first next := by
  have length : next - first = (middle - first) + (next - middle) := by
    omega
  have start : middle + 1 = first + 1 + (middle - first) := by
    omega
  rw [numbered, numbered, numbered, ← List.map_append, length,
    ← List.range'_append_1, ← start]

/-- The temporaries are the fresh ones, in order, from one number up to
another. -/
structure Numbered (last : Nat) (targets : List Temporary) (next : Nat) :
    Prop where
  le : last ≤ next
  eq : targets = numbered last next

namespace Numbered

theorem nil (last : Nat) : Numbered last [] last :=
  ⟨Nat.le_refl last, (numbered_self last).symm⟩

theorem single (last : Nat) : Numbered last [⟨last + 1⟩] (last + 1) :=
  ⟨Nat.le_succ last, (numbered_succ last).symm⟩

theorem append {first middle next : Nat} {left right : List Temporary}
    (leftNumbered : Numbered first left middle)
    (rightNumbered : Numbered middle right next) :
    Numbered first (left ++ right) next := by
  refine ⟨Nat.le_trans leftNumbered.le rightNumbered.le, ?_⟩
  rw [leftNumbered.eq, rightNumbered.eq,
    numbered_append leftNumbered.le rightNumbered.le]

theorem mem {last next : Nat} {targets : List Temporary}
    (isNumbered : Numbered last targets next) {target : Temporary}
    (member : target ∈ targets) :
    last < target.number ∧ target.number ≤ next := by
  have le := isNumbered.le
  rw [isNumbered.eq, numbered, List.mem_map] at member
  rcases member with ⟨number, inRange, rfl⟩
  rw [List.mem_range'_1] at inRange
  show last < number ∧ number ≤ next
  omega

end Numbered

/-! ## Openings -/

theorem numbered_prepareAttribute (item : Attribute) (last : Nat) :
    Numbered last (blockTargets (prepareAttribute item last).1.1)
      (prepareAttribute item last).2 := by
  cases item with
  | computed name value =>
      by_cases isClass : name = "class"
      · subst isClass
        exact .single last
      · by_cases handler : Attribute.isHandlerName name = true
        · rw [prepareAttribute_handler value last isClass handler]
          exact .single last
        · rw [prepareAttribute_computed value last isClass handler]
          exact .nil last
  | constant name value => exact .nil last
  | flag name => exact .nil last
  | conditional name condition => exact .nil last

theorem numbered_prepareAttributes (attributes : List Attribute) (last : Nat) :
    Numbered last (blockTargets (prepareAttributes attributes last).1.1)
      (prepareAttributes attributes last).2 := by
  induction attributes generalizing last with
  | nil => exact .nil last
  | cons item rest inductionHypothesis =>
      rw [prepareAttributes_cons]
      simp only [blockTargets_append]
      exact (numbered_prepareAttribute item last).append
        (inductionHypothesis _)

theorem blockTargets_renderHandlers (attributes : List PreparedAttribute) :
    blockTargets (renderHandlers attributes) = [] := by
  unfold renderHandlers
  simp only
  split <;> rfl

theorem numbered_lowerAttribute (tag : String) (item : PreparedAttribute)
    (last : Nat) :
    Numbered last (blockTargets (lowerAttribute tag item last).1)
      (lowerAttribute tag item last).2 := by
  cases item with
  | direct item =>
      cases item with
      | computed name value =>
          by_cases isUrl : (tag = "a" && name = "href") = true
          · have both : tag = "a" ∧ name = "href" := by
              simpa using isUrl
            rcases both with ⟨rfl, rfl⟩
            exact .single last
          · rw [lowerAttribute_computed value last isUrl]
            exact .nil last
      | constant name value => exact .nil last
      | flag name => exact .nil last
      | conditional name condition => exact .nil last
  | classList name source => exact .nil last
  | handler name source => exact .nil last

theorem numbered_lowerAttributes (tag : String)
    (attributes : List PreparedAttribute) (last : Nat) :
    Numbered last (blockTargets (lowerAttributes tag attributes last).1)
      (lowerAttributes tag attributes last).2 := by
  induction attributes generalizing last with
  | nil => exact .nil last
  | cons item rest inductionHypothesis =>
      rw [lowerAttributes_cons]
      simp only [blockTargets_append]
      exact (numbered_lowerAttribute tag item last).append
        (inductionHypothesis _)

theorem numbered_lowerOpening (tag : String) (attributes : List Attribute)
    (last : Nat) :
    Numbered last (blockTargets (lowerOpening tag attributes last).1)
      (lowerOpening tag attributes last).2 := by
  cases attributes with
  | nil => exact .nil last
  | cons item rest =>
      have bindings := numbered_prepareAttributes (item :: rest) last
      have written := numbered_lowerAttributes tag
        (prepareAttributes (item :: rest) last).1.2
        (prepareAttributes (item :: rest) last).2
      rw [lowerOpening_cons]
      simp only [blockTargets_append, blockTargets_renderHandlers,
        blockTargets, Statement.targets, Statement.bound, List.append_nil]
      exact bindings.append written

/-! ## Nodes -/

mutual

theorem numbered_lowerNode (node : Node) (last : Nat) :
    Numbered last (blockTargets (lowerNode node last).1)
      (lowerNode node last).2 := by
  match node with
  | .element tag true attributes [] =>
      rw [lowerNode_void]
      exact numbered_lowerOpening tag attributes last
  | .element tag true attributes (child :: children) =>
      rw [lowerNode_rejected]
      exact .nil last
  | .element tag false attributes children =>
      have opening := numbered_lowerOpening tag attributes last
      have body := numbered_lowerNodes children
        (lowerOpening tag attributes last).2
      rw [lowerNode_element]
      simp only [blockTargets_append, blockTargets, Statement.targets,
        Statement.bound, List.append_nil]
      exact opening.append body
  | .text value => exact .single last
  | .loop header body =>
      have inner := numbered_lowerNodes body last
      rw [lowerNode_loop]
      simpa only [blockTargets, Statement.targets, List.append_nil] using inner
  | .conditional condition thenBranch elseBranch =>
      have thenInner := numbered_lowerNodes thenBranch last
      have elseInner := numbered_lowerBranch elseBranch
        (lowerNodes thenBranch last).2
      rw [lowerNode_conditional]
      simpa only [blockTargets, Statement.targets, List.append_nil] using
        thenInner.append elseInner
  | .choice subject cases fallback =>
      have arms := numbered_lowerCases cases last
      have elseInner := numbered_lowerBranch fallback (lowerCases cases last).2
      rw [lowerNode_choice]
      simpa only [blockTargets, Statement.targets, List.append_nil] using
        arms.append elseInner
  | .docType value => exact .nil last
  | .whitespace value => exact .nil last
  | .interpolation value => exact .nil last
  | .call component => exact .nil last

theorem numbered_lowerNodes (nodes : List Node) (last : Nat) :
    Numbered last (blockTargets (lowerNodes nodes last).1)
      (lowerNodes nodes last).2 := by
  match nodes with
  | [] => exact .nil last
  | node :: rest =>
      have first := numbered_lowerNode node last
      have later := numbered_lowerNodes rest (lowerNode node last).2
      rw [lowerNodes_cons]
      simp only [blockTargets_append]
      exact first.append later

theorem numbered_lowerBranch (branch : Option (List Node)) (last : Nat) :
    Numbered last (elseTargets (lowerBranch branch last).1)
      (lowerBranch branch last).2 := by
  match branch with
  | none => exact .nil last
  | some nodes =>
      have inner := numbered_lowerNodes nodes last
      rw [lowerBranch_some]
      exact inner

theorem numbered_lowerCases (cases : List (Expression × List Node))
    (last : Nat) :
    Numbered last (armTargets (lowerCases cases last).1)
      (lowerCases cases last).2 := by
  match cases with
  | [] => exact .nil last
  | (pattern, body) :: rest =>
      have inner := numbered_lowerNodes body last
      have later := numbered_lowerCases rest (lowerNodes body last).2
      rw [lowerCases_cons]
      exact inner.append later

end

/-! ## Files -/

theorem numbered_lowerDeclaration (declaration : Declaration) (last : Nat) :
    Numbered last (blockTargets (lowerDeclaration declaration last).1)
      (lowerDeclaration declaration last).2 := by
  cases declaration with
  | html template => exact numbered_lowerNodes template.children last
  | style template => exact .nil last
  | script template => exact .nil last

theorem numbered_lowerDeclarations (declarations : List Declaration)
    (last : Nat) :
    Numbered last
      ((lowerDeclarations declarations last).1.flatMap fun function =>
        blockTargets function.2)
      (lowerDeclarations declarations last).2 := by
  induction declarations generalizing last with
  | nil => exact .nil last
  | cons declaration rest inductionHypothesis =>
      rw [lowerDeclarations_cons]
      simp only [List.flatMap_cons]
      exact (numbered_lowerDeclaration declaration last).append
        (inductionHypothesis _)

theorem Temporary.name_injective : Function.Injective Temporary.name := by
  rintro ⟨first⟩ ⟨second⟩ equal
  simp only [name, String.append_right_inj] at equal
  have digits : Nat.toDigits 10 first = Nat.toDigits 10 second := by
    have := congrArg String.toList equal
    simpa [Nat.toString_eq_repr, Nat.toList_repr] using this
  have same := congrArg (Nat.ofDigitChars 10 · 0) digits
  simp only [Nat.ofDigitChars_ten_toDigits] at same
  rw [same]

theorem nodup_numbered (last next : Nat) :
    ((numbered last next).map Temporary.name).Nodup := by
  rw [List.nodup_map_iff Temporary.name_injective, numbered]
  refine List.Nodup.map ?_ List.nodup_range'
  rintro first second equal
  exact congrArg Temporary.number equal

/-- No name is bound twice in a file. -/
theorem nodup_moduleBodies (file : TemplateFile) :
    (((moduleBodies file).flatMap fun function =>
      blockTargets function.2).map Temporary.name).Nodup := by
  rw [moduleBodies, (numbered_lowerDeclarations file.declarations 0).eq]
  exact nodup_numbered _ _

end Templating.Code

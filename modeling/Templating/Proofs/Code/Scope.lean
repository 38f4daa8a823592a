import Templating.Parameters
import Templating.Proofs.Code.Copies

/-!
# Names around copied expressions

An expression of a template is copied to a place inside the generated closure.
There it sees the parameters of the closure and the temporaries that the
statements before it bound, in its own block and in the blocks around that.

All these names are fixed by the generator, and nothing keeps a template from
using one of them for a parameter of its own.  No other parameter is ever
hidden: every temporary around an expression is one of its own template, whose
numbers go on where the templates before it ended.
-/

namespace Templating.Code

/-- The place of a copied expression, with the temporaries in scope there,
innermost first. -/
structure Place where
  expression : Expression
  temporaries : List Temporary
  deriving DecidableEq, Repr

mutual

/-- The places of the expressions of a statement and of its blocks, in order. -/
def Statement.places (scope : List Temporary) : Statement → List Place
  | .bindClasses _ value => [⟨value, scope⟩]
  | .bindScript _ value => [⟨value, scope⟩]
  | .bindUrl _ value => [⟨value, scope⟩]
  | .writeEscaped value => [⟨value, scope⟩]
  | .renderComponent component => [⟨component, scope⟩]
  | .loop header body => ⟨header, scope⟩ :: blockPlaces scope body
  | .conditional condition thenBlock elseBlock =>
      ⟨condition, scope⟩ :: blockPlaces scope thenBlock ++
        elsePlaces scope elseBlock
  | .choice subject arms fallback =>
      ⟨subject, scope⟩ :: armPlaces scope arms ++ elsePlaces scope fallback
  | _ => []

/-- A statement is in the scope of the bindings before it. -/
def blockPlaces (scope : List Temporary) : List Statement → List Place
  | [] => []
  | statement :: rest =>
      statement.places scope ++ blockPlaces (statement.bound ++ scope) rest

def elsePlaces (scope : List Temporary) :
    Option (List Statement) → List Place
  | none => []
  | some block => blockPlaces scope block

def armPlaces (scope : List Temporary) :
    List (Expression × List Statement) → List Place
  | [] => []
  | (pattern, block) :: rest =>
      ⟨pattern, scope⟩ :: blockPlaces scope block ++ armPlaces scope rest

end

/-! ## Every copy has a place -/

mutual

theorem expression_places (scope : List Temporary) (statement : Statement) :
    (statement.places scope).map Place.expression = statement.expressions := by
  match statement with
  | .loop header body =>
      rw [Statement.places, List.map_cons, expression_blockPlaces scope body,
        Statement.expressions]
  | .conditional condition thenBlock elseBlock =>
      rw [Statement.places, List.cons_append, List.map_cons, List.map_append,
        expression_blockPlaces scope thenBlock,
        expression_elsePlaces scope elseBlock, Statement.expressions,
        List.cons_append]
  | .choice subject arms fallback =>
      rw [Statement.places, List.cons_append, List.map_cons, List.map_append,
        expression_armPlaces scope arms, expression_elsePlaces scope fallback,
        Statement.expressions, List.cons_append]
  | .bindText _ _
  | .bindClasses _ _
  | .bindScript _ _
  | .bindUrl _ _
  | .writeText _
  | .writeTemporary _
  | .writeEscaped _
  | .writeEscapedTemporary _
  | .writeCall _
  | .renderStyles _
  | .renderScripts _
  | .renderComponent _
  | .rejected _ => simp [Statement.places, Statement.expressions]

theorem expression_blockPlaces (scope : List Temporary)
    (block : List Statement) :
    (blockPlaces scope block).map Place.expression = blockExpressions block := by
  match block with
  | [] => rfl
  | statement :: rest =>
      rw [blockPlaces, List.map_append, expression_places scope statement,
        expression_blockPlaces _ rest, blockExpressions]

theorem expression_elsePlaces (scope : List Temporary)
    (block : Option (List Statement)) :
    (elsePlaces scope block).map Place.expression = elseExpressions block := by
  match block with
  | none => rfl
  | some block => exact expression_blockPlaces scope block

theorem expression_armPlaces (scope : List Temporary)
    (arms : List (Expression × List Statement)) :
    (armPlaces scope arms).map Place.expression = armExpressions arms := by
  match arms with
  | [] => rfl
  | (pattern, block) :: rest =>
      rw [armPlaces, List.cons_append, List.map_cons, List.map_append,
        expression_blockPlaces scope block, expression_armPlaces scope rest,
        armExpressions, List.cons_append]

end

/-! ## What is in scope -/

/-- The temporaries at a place were in scope or are among these. -/
def Place.Within (targets scope : List Temporary) (place : Place) : Prop :=
  ∀ temporary ∈ place.temporaries,
    temporary ∈ targets ∨ temporary ∈ scope

theorem Place.Within.mono {targets more scope : List Temporary} {place : Place}
    (within : place.Within targets scope) (subset : targets ⊆ more) :
    place.Within more scope :=
  fun temporary member => (within temporary member).imp_left (@subset temporary)

theorem within_scope (targets scope : List Temporary)
    (expression : Expression) : Place.Within targets scope ⟨expression, scope⟩ :=
  fun _ member => .inr member

theorem bound_subset_targets (statement : Statement) :
    statement.bound ⊆ statement.targets := by
  cases statement <;>
    first
      | exact List.Subset.refl _
      | exact List.nil_subset _

mutual

/-- Inside of a statement only its own bindings come into scope. -/
theorem within_places {statement : Statement} {scope : List Temporary}
    {place : Place} (member : place ∈ statement.places scope) :
    place.Within statement.targets scope := by
  match statement with
  | .loop header body =>
      rcases List.mem_cons.mp member with rfl | inBody
      · exact within_scope _ _ _
      · exact within_blockPlaces inBody
  | .conditional condition thenBlock elseBlock =>
      rcases List.mem_cons.mp member with rfl | inBlocks
      · exact within_scope _ _ _
      · rcases List.mem_append.mp inBlocks with inThen | inElse
        · exact (within_blockPlaces inThen).mono (List.subset_append_left _ _)
        · exact (within_elsePlaces inElse).mono (List.subset_append_right _ _)
  | .choice subject arms fallback =>
      rcases List.mem_cons.mp member with rfl | inBlocks
      · exact within_scope _ _ _
      · rcases List.mem_append.mp inBlocks with inArms | inElse
        · exact (within_armPlaces inArms).mono (List.subset_append_left _ _)
        · exact (within_elsePlaces inElse).mono (List.subset_append_right _ _)
  | .bindClasses _ _
  | .bindScript _ _
  | .bindUrl _ _
  | .writeEscaped _
  | .renderComponent _ =>
      cases List.mem_singleton.mp member
      exact within_scope _ _ _
  | .bindText _ _
  | .writeText _
  | .writeTemporary _
  | .writeEscapedTemporary _
  | .writeCall _
  | .renderStyles _
  | .renderScripts _
  | .rejected _ => exact absurd member List.not_mem_nil

theorem within_blockPlaces {block : List Statement} {scope : List Temporary}
    {place : Place} (member : place ∈ blockPlaces scope block) :
    place.Within (blockTargets block) scope := by
  match block with
  | [] => exact absurd member List.not_mem_nil
  | statement :: rest =>
      rcases List.mem_append.mp member with inStatement | inRest
      · exact (within_places inStatement).mono (List.subset_append_left _ _)
      · intro temporary inScope
        rcases within_blockPlaces inRest temporary inScope with own | before
        · exact .inl (List.mem_append_right _ own)
        · rcases List.mem_append.mp before with bound | outer
          · exact .inl (List.mem_append_left _
              (bound_subset_targets statement bound))
          · exact .inr outer

theorem within_elsePlaces {block : Option (List Statement)}
    {scope : List Temporary} {place : Place}
    (member : place ∈ elsePlaces scope block) :
    place.Within (elseTargets block) scope := by
  match block with
  | none => exact absurd member List.not_mem_nil
  | some block => exact within_blockPlaces member

theorem within_armPlaces {arms : List (Expression × List Statement)}
    {scope : List Temporary} {place : Place}
    (member : place ∈ armPlaces scope arms) :
    place.Within (armTargets arms) scope := by
  match arms with
  | [] => exact absurd member List.not_mem_nil
  | (pattern, block) :: rest =>
      rcases List.mem_cons.mp member with rfl | inBlocks
      · exact within_scope _ _ _
      · rcases List.mem_append.mp inBlocks with inBlock | inRest
        · exact (within_blockPlaces inBlock).mono (List.subset_append_left _ _)
        · exact (within_armPlaces inRest).mono (List.subset_append_right _ _)

end

/-! ## Names -/

/-- The names that the generated closure has bound at a place. -/
def Place.names (place : Place) : List String :=
  Parameters.bindings closureParameters ++ place.temporaries.map Temporary.name

/-! ## Files -/

theorem Numbered.next_eq {last next : Nat} {targets : List Temporary}
    (isNumbered : Numbered last targets next) :
    next = last + targets.length := by
  have le := isNumbered.le
  rw [isNumbered.eq, numbered, List.length_map, List.length_range']
  omega

/-- How many temporaries some functions bind. -/
def temporaryCount (functions : List (Declaration × List Statement)) : Nat :=
  (functions.flatMap fun function => blockTargets function.2).length

theorem temporaryCount_cons (declaration : Declaration)
    (body : List Statement) (rest : List (Declaration × List Statement)) :
    temporaryCount ((declaration, body) :: rest) =
      (blockTargets body).length + temporaryCount rest := by
  rw [temporaryCount, List.flatMap_cons, List.length_append, temporaryCount]

/-- The statements of a function are those of its declaration, numbered on from
the functions before it. -/
theorem body_eq_lowerDeclaration {declarations : List Declaration} {last : Nat}
    {before after : List (Declaration × List Statement)}
    {declaration : Declaration} {body : List Statement}
    (here : (lowerDeclarations declarations last).1 =
      before ++ (declaration, body) :: after) :
    body = (lowerDeclaration declaration (last + temporaryCount before)).1 := by
  induction before generalizing declarations last with
  | nil =>
      cases declarations with
      | nil => cases here
      | cons first rest =>
          rw [lowerDeclarations_cons] at here
          cases here
          rfl
  | cons function others inductionHypothesis =>
      cases declarations with
      | nil => cases here
      | cons first rest =>
          rw [lowerDeclarations_cons, List.cons_append, List.cons.injEq] at here
          rcases here with ⟨rfl, later⟩
          have behind := inductionHypothesis later
          rwa [(numbered_lowerDeclaration first last).next_eq, Nat.add_assoc,
            ← temporaryCount_cons] at behind

/-- The names of the generator's own in a template that takes up these numbers:
those of the closure's parameters and of the temporaries. -/
def IsReserved (last next : Nat) (name : String) : Prop :=
  name = "scope" ∨ name = "w" ∨
    ∃ number, last < number ∧ number ≤ next ∧
      name = "var_" ++ toString number

theorem bindings_closureParameters :
    Parameters.bindings closureParameters = ["scope", "w"] := by
  decide

theorem isReserved_of_mem_names {body : List Statement} {place : Place}
    {last next : Nat} (isNumbered : Numbered last (blockTargets body) next)
    (member : place ∈ blockPlaces [] body) {name : String}
    (bound : name ∈ place.names) : IsReserved last next name := by
  rw [Place.names, bindings_closureParameters] at bound
  rcases List.mem_append.mp bound with fixed | inTemporaries
  · simp only [List.mem_cons, List.not_mem_nil, or_false] at fixed
    exact fixed.imp id .inl
  · rcases List.mem_map.mp inTemporaries with ⟨temporary, inScope, rfl⟩
    rcases within_blockPlaces member temporary inScope with own | outer
    · have range := isNumbered.mem own
      exact .inr (.inr ⟨temporary.number, range.1, range.2, rfl⟩)
    · exact absurd outer List.not_mem_nil

section Function

variable {file : TemplateFile} {template : HtmlTemplate}
  {before after : List (Declaration × List Statement)} {body : List Statement}

/-- The function of an HTML template copies the template's name, its parameters
and the expressions of its body, each of these at its place. -/
theorem copies_layoutHtml (template : HtmlTemplate) (body : List Statement) :
    (layoutHtml template body).flatMap Entry.copies =
      template.name :: template.parameters ::
        (blockPlaces [] body).map Place.expression := by
  rw [expression_blockPlaces, ← copies_layoutBlock 3]
  simp [layoutHtml, layoutSignature, copies]

/-- All names that the generated closure has bound around an expression are the
generator's own: the two parameters of the closure and temporaries with numbers
that the template itself uses up.  So if no parameter of the template has such a
name, all of them can be seen wherever an expression of the template stands. -/
theorem hides_only_reserved
    (here : moduleBodies file = before ++ (.html template, body) :: after) :
    (layoutHtml template body).flatMap Entry.copies =
        template.name :: template.parameters ::
          (blockPlaces [] body).map Place.expression ∧
      (rejectedIn? template.children = none →
        ((blockPlaces [] body).map Place.expression).Perm
          (nodeExpressions template.children)) ∧
      (∀ place ∈ blockPlaces [] body, ∀ name ∈ place.names,
        IsReserved (temporaryCount before)
          (temporaryCount before + (blockTargets body).length) name) ∧
      ((∀ name ∈ Parameters.bindings template.parameters.value,
          ¬IsReserved (temporaryCount before)
            (temporaryCount before + (blockTargets body).length) name) →
        ∀ place ∈ blockPlaces [] body, ∀ name ∈ place.names,
          name ∉ Parameters.bindings template.parameters.value) := by
  have lowered := body_eq_lowerDeclaration here
  rw [Nat.zero_add, lowerDeclaration] at lowered
  have isNumbered := numbered_lowerNodes template.children (temporaryCount before)
  rw [isNumbered.next_eq, ← lowered] at isNumbered
  have reserved : ∀ place ∈ blockPlaces [] body, ∀ name ∈ place.names, _ :=
    fun _ member _ bound => isReserved_of_mem_names isNumbered member bound
  refine ⟨copies_layoutHtml template body, ?_, reserved, ?_⟩
  · intro accepted
    rw [expression_blockPlaces, lowered]
    exact expressions_lowerNodes template.children _ accepted
  · intro unreserved place member name bound isParameter
    exact unreserved name isParameter (reserved place member name bound)

end Function

/-- A template with one text behind which its only parameter is shown. -/
def labelTemplate (parameter : String) : HtmlTemplate where
  name := ⟨"label", default⟩
  parameters := ⟨parameter ++ ": &str", default⟩
  children := [.text "x", .interpolation ⟨parameter, default⟩]

/-- Two of these templates.  The second one's parameter has the name of a
temporary of the first. -/
def labelFile : TemplateFile where
  package := ⟨"views", default⟩
  imports := []
  declarations :=
    [.html (labelTemplate "content"), .html (labelTemplate "var_1")]

theorem second_label_seen :
    ∃ before body,
      moduleBodies labelFile =
          before ++ (.html (labelTemplate "var_1"), body) :: [] ∧
        temporaryCount before = 1 ∧
        blockPlaces [] body = [⟨⟨"var_1", default⟩, [⟨2⟩]⟩] ∧
        ∀ place ∈ blockPlaces [] body, "var_1" ∉ place.names := by
  let first := (lowerNodes (labelTemplate "content").children 0).1
  let second := (lowerNodes (labelTemplate "var_1").children 1).1
  have here : moduleBodies labelFile =
      [(.html (labelTemplate "content"), first)] ++
        (.html (labelTemplate "var_1"), second) :: [] := rfl
  have bindings : Parameters.bindings
      (labelTemplate "var_1").parameters.value = ["var_1"] := by decide
  have unreserved : ∀ name ∈ Parameters.bindings
      (labelTemplate "var_1").parameters.value, ¬IsReserved 1 2 name := by
    rw [bindings]
    intro name member
    rw [List.mem_singleton.mp member]
    rintro (isScope | isWriter | ⟨number, above, below, same⟩)
    · exact absurd isScope (by decide)
    · exact absurd isWriter (by decide)
    · have isTwo : number = 2 := by omega
      subst isTwo
      exact absurd same (by decide)
  rcases hides_only_reserved here with ⟨-, -, -, seen⟩
  refine ⟨_, second, here, rfl, by decide, ?_⟩
  intro place member bound
  exact seen unreserved place member "var_1" bound (by decide)

/-- In no file a parameter of the template is hidden anywhere. -/
def NeverHidden (template : HtmlTemplate) : Prop :=
  ∀ (file : TemplateFile) (body : List Statement)
    (before after : List (Declaration × List Statement)),
    moduleBodies file = before ++ (.html template, body) :: after →
      ∀ place ∈ blockPlaces [] body, ∀ name ∈ place.names,
        name ∉ Parameters.bindings template.parameters.value

theorem label_not_neverHidden {parameter : String}
    (isName : parameter ∈ Place.names ⟨⟨parameter, default⟩, [⟨1⟩]⟩)
    (isParameter : parameter ∈
      Parameters.bindings (labelTemplate parameter).parameters.value) :
    ¬NeverHidden (labelTemplate parameter) := by
  intro never
  have alone : moduleBodies
      ⟨⟨"views", default⟩, [], [.html (labelTemplate parameter)]⟩ =
        [] ++ (.html (labelTemplate parameter),
          (lowerNodes (labelTemplate parameter).children 0).1) :: [] := rfl
  exact never _ _ _ _ alone _ (List.mem_singleton_self _) parameter isName
    isParameter

/-- Each name of the generator's own hides the parameter that has it. -/
theorem reserved_parameter_hidden :
    ¬NeverHidden (labelTemplate "scope") ∧ ¬NeverHidden (labelTemplate "w") ∧
      ¬NeverHidden (labelTemplate "var_1") :=
  ⟨label_not_neverHidden (by decide) (by decide),
    label_not_neverHidden (by decide) (by decide),
    label_not_neverHidden (by decide) (by decide)⟩

end Templating.Code

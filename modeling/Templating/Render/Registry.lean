/-!
# Registries

The names that a render has dealt with already, each once.
-/

namespace Templating

/-- A set of names in the order in which they were added. -/
structure Registry where
  names : List String
  nodup : names.Nodup
  deriving DecidableEq, Repr

namespace Registry

def empty : Registry := ⟨[], .nil⟩

instance : Inhabited Registry := ⟨empty⟩

def contains (registry : Registry) (name : String) : Bool :=
  registry.names.contains name

instance : Membership String Registry :=
  ⟨fun registry name => name ∈ registry.names⟩

/-- The registry with one more name. -/
def insert (registry : Registry) (name : String) : Registry :=
  if absent : name ∈ registry.names then
    registry
  else
    ⟨registry.names ++ [name], by
      simp only [List.nodup_append, registry.nodup, List.nodup_cons,
        List.not_mem_nil, not_false_eq_true, List.nodup_nil, and_self,
        List.mem_singleton, ne_eq, true_and]
      rintro member isMember _ rfl rfl
      exact absent isMember⟩

/-- The registry with more names, added in order. -/
def insertAll (registry : Registry) (names : List String) : Registry :=
  names.foldl insert registry

/-- The registry of some names. -/
def ofList (names : List String) : Registry :=
  empty.insertAll names

def size (registry : Registry) : Nat :=
  registry.names.length

def isEmpty (registry : Registry) : Bool :=
  registry.names.isEmpty

/-- The names in the order of their code points. -/
def sorted (registry : Registry) : List String :=
  registry.names.mergeSort fun left right => decide (left ≤ right)

theorem mem_iff {registry : Registry} {name : String} :
    name ∈ registry ↔ name ∈ registry.names := Iff.rfl

@[simp]
theorem contains_iff {registry : Registry} {name : String} :
    registry.contains name = true ↔ name ∈ registry := by
  simp [contains, mem_iff]

@[simp]
theorem not_mem_empty {name : String} : ¬name ∈ empty := by
  simp [mem_iff, empty]

@[simp]
theorem mem_insert {registry : Registry} {name other : String} :
    other ∈ registry.insert name ↔ other ∈ registry ∨ other = name := by
  unfold insert
  split
  · constructor
    · exact Or.inl
    · rintro (member | rfl)
      · exact member
      · assumption
  · simp [mem_iff]

@[simp]
theorem mem_insertAll {registry : Registry} {names : List String}
    {other : String} :
    other ∈ registry.insertAll names ↔ other ∈ registry ∨ other ∈ names := by
  induction names generalizing registry with
  | nil => simp [insertAll]
  | cons name rest inductionHypothesis =>
      have step : registry.insertAll (name :: rest) =
          (registry.insert name).insertAll rest := rfl
      simp [step, inductionHypothesis, or_assoc]

end Registry

end Templating

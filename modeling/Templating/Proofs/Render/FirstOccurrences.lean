import Templating.Render.Block

/-!
# First occurrences

Of several entries with one name the first counts, and none if the name was
known before.  A registry collects exactly these entries: the names it has when
it starts are the known ones, and afterwards it has all names that occurred.
-/

namespace Templating.Render

/-- The first entry of each name that is not known. -/
def firstOccurrences (known : List String) (entries : List (String × String)) :
    List (String × String) :=
  (entries.filter fun entry => entry.1 ∉ known).eraseDupsBy
    fun first second => first.1 == second.1

section Known

variable {known : List String}

@[simp]
theorem firstOccurrences_nil : firstOccurrences known [] = [] := rfl

/-- Only which names are known matters. -/
theorem firstOccurrences_congr {other : List String}
    (same : ∀ name, name ∈ known ↔ name ∈ other)
    (entries : List (String × String)) :
    firstOccurrences known entries = firstOccurrences other entries := by
  have tests : (fun entry : String × String => decide (entry.1 ∉ known)) =
      fun entry => decide (entry.1 ∉ other) := by
    funext entry
    rw [decide_eq_decide]
    exact not_congr (same entry.1)
  rw [firstOccurrences, tests]
  rfl

theorem firstOccurrences_known {name text : String}
    {rest : List (String × String)} (isKnown : name ∈ known) :
    firstOccurrences known ((name, text) :: rest) =
      firstOccurrences known rest := by
  simp [firstOccurrences, isKnown]

theorem firstOccurrences_fresh {name text : String}
    {rest : List (String × String)} (fresh : name ∉ known) :
    firstOccurrences known ((name, text) :: rest) =
      (name, text) :: firstOccurrences (name :: known) rest := by
  rw [firstOccurrences, List.filter_cons_of_pos (by simpa using fresh),
    List.eraseDupsBy_cons, List.filter_filter]
  congr 2
  apply List.filter_congr
  intro entry _
  simp

theorem firstOccurrences_append (first second : List (String × String)) :
    firstOccurrences known (first ++ second) =
      firstOccurrences known first ++
        firstOccurrences (known ++ first.map Prod.fst) second := by
  induction first generalizing known with
  | nil => simp
  | cons entry rest inductionHypothesis =>
      rcases entry with ⟨name, text⟩
      by_cases isKnown : name ∈ known
      · rw [List.cons_append, firstOccurrences_known isKnown,
          firstOccurrences_known isKnown, inductionHypothesis]
        congr 1
        apply firstOccurrences_congr
        intro other
        simp only [List.map_cons, List.mem_append, List.mem_cons]
        constructor
        · rintro (before | later)
          · exact .inl before
          · exact .inr (.inr later)
        · rintro (before | rfl | later)
          · exact .inl before
          · exact .inl isKnown
          · exact .inr later
      · rw [List.cons_append, firstOccurrences_fresh isKnown,
          firstOccurrences_fresh isKnown, inductionHypothesis, List.cons_append]
        congr 2
        apply firstOccurrences_congr
        intro other
        simp only [List.map_cons, List.mem_append, List.mem_cons]
        exact or_left_comm

/-- The entries that are kept are entries. -/
theorem mem_of_mem_firstOccurrences {entry : String × String}
    {entries : List (String × String)}
    (kept : entry ∈ firstOccurrences known entries) : entry ∈ entries := by
  induction entries generalizing known with
  | nil => simp at kept
  | cons first rest inductionHypothesis =>
      rcases first with ⟨name, text⟩
      by_cases isKnown : name ∈ known
      · rw [firstOccurrences_known isKnown] at kept
        exact List.mem_cons_of_mem _ (inductionHypothesis kept)
      · rw [firstOccurrences_fresh isKnown] at kept
        rcases List.mem_cons.mp kept with rfl | kept
        · exact List.mem_cons_self
        · exact List.mem_cons_of_mem _ (inductionHypothesis kept)

/-- The entries that are kept are new. -/
theorem fresh_of_mem_firstOccurrences {entry : String × String}
    {entries : List (String × String)}
    (kept : entry ∈ firstOccurrences known entries) : entry.1 ∉ known := by
  induction entries generalizing known with
  | nil => simp at kept
  | cons first rest inductionHypothesis =>
      rcases first with ⟨name, text⟩
      by_cases isKnown : name ∈ known
      · rw [firstOccurrences_known isKnown] at kept
        exact inductionHypothesis kept
      · rw [firstOccurrences_fresh isKnown] at kept
        rcases List.mem_cons.mp kept with rfl | kept
        · exact isKnown
        · intro isKnown
          exact inductionHypothesis kept (List.mem_cons_of_mem _ isKnown)

/-- An entry with a new name is kept if no entry before it has that name. -/
theorem mem_firstOccurrences_of_first {name text : String}
    {before later : List (String × String)} (fresh : name ∉ known)
    (isFirst : ∀ entry ∈ before, entry.1 ≠ name) :
    (name, text) ∈
      firstOccurrences known (before ++ (name, text) :: later) := by
  have stillFresh : name ∉ known ++ before.map Prod.fst := by
    intro isKnown
    rcases List.mem_append.mp isKnown with earlier | between
    · exact fresh earlier
    · rcases List.mem_map.mp between with ⟨entry, member, same⟩
      exact isFirst entry member same
  rw [firstOccurrences_append, firstOccurrences_fresh stillFresh]
  exact List.mem_append_right _ List.mem_cons_self

/-- Each name is known or kept with some text. -/
theorem known_or_kept (known : List String) {entry : String × String}
    {entries : List (String × String)} (member : entry ∈ entries) :
    entry.1 ∈ known ∨
      ∃ text, (entry.1, text) ∈ firstOccurrences known entries := by
  induction entries generalizing known with
  | nil => cases member
  | cons first rest inductionHypothesis =>
      rcases first with ⟨name, text⟩
      by_cases isKnown : name ∈ known
      · rw [firstOccurrences_known isKnown]
        rcases List.mem_cons.mp member with rfl | member
        · exact .inl isKnown
        · exact inductionHypothesis known member
      · rw [firstOccurrences_fresh isKnown]
        rcases List.mem_cons.mp member with rfl | member
        · exact .inr ⟨text, List.mem_cons_self⟩
        · rcases inductionHypothesis (name :: known) member with
            earlier | ⟨text', kept⟩
          · rcases List.mem_cons.mp earlier with same | earlier
            · rw [same]
              exact .inr ⟨text, List.mem_cons_self⟩
            · exact .inl earlier
          · exact .inr ⟨text', List.mem_cons_of_mem _ kept⟩

end Known

/-! ## Registries -/

/-- What is collected is the first occurrences, and all names are registered. -/
theorem collectNew_eq (registry : Registry) (entries : List (String × String)) :
    collectNew registry entries =
      (registry.insertAll (entries.map Prod.fst),
        String.join
          ((firstOccurrences registry.names entries).map Prod.snd)) := by
  induction entries generalizing registry with
  | nil => rfl
  | cons entry rest inductionHypothesis =>
      rcases entry with ⟨name, text⟩
      by_cases isKnown : name ∈ registry
      · have unchanged : registry.insert name = registry := by
          unfold Registry.insert
          exact dif_pos isKnown
        rw [collectNew, if_pos (Registry.contains_iff.mpr isKnown),
          inductionHypothesis, firstOccurrences_known isKnown]
        show _ = ((registry.insert name).insertAll _, _)
        rw [unchanged]
      · have known : ∀ other, other ∈ (registry.insert name).names ↔
            other ∈ name :: registry.names := by
          intro other
          rw [← Registry.mem_iff, Registry.mem_insert, List.mem_cons, or_comm]
          rfl
        have absent : ¬registry.contains name = true := by
          rwa [Registry.contains_iff]
        rw [collectNew, if_neg absent, inductionHypothesis,
          firstOccurrences_congr known, firstOccurrences_fresh isKnown]
        simp only [List.map_cons, String.join_cons]
        rfl

/-- Nothing is collected if all names are registered. -/
theorem collectNew_known {registry : Registry}
    {entries : List (String × String)}
    (known : ∀ entry ∈ entries, entry.1 ∈ registry) :
    collectNew registry entries = (registry, "") := by
  induction entries with
  | nil => rfl
  | cons entry rest inductionHypothesis =>
      rw [List.forall_mem_cons] at known
      rw [collectNew, if_pos (Registry.contains_iff.mpr known.1),
        inductionHypothesis known.2]

end Templating.Render

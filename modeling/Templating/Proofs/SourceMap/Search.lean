import Mathlib.Data.List.Chain
import Templating.Proofs.SourceMap.Completeness
import Templating.Proofs.SourceMap.Lookup

/-!
# Searching a map and reading through it

The search for a generated position looks at the ends of spans only, and passes
those that end before the position.  In a map whose spans follow each other this
is the same as to read the map from its first mapping on and to stop at the
first one that has the position.  Spans may touch, and they may be empty: then
several mappings have a position, and the search finds the first of them.
-/

namespace Templating

namespace SourceMap

/-- Generated spans follow each other: none ends before it starts, and none
starts before the one in front of it ends. -/
structure InOrder (map : SourceMap) : Prop where
  forward : ∀ mapping ∈ map.mappings.toList,
    mapping.generated.start.index ≤ mapping.generated.stop.index
  adjacent : map.mappings.toList.IsChain fun first second =>
    first.generated.stop.index ≤ second.generated.start.index

namespace InOrder

variable {map : SourceMap} (inOrder : map.InOrder)

include inOrder

/-- A span starts behind the ends of all spans before it. -/
theorem pairwise : map.mappings.toList.Pairwise fun first second =>
    first.generated.stop.index ≤ second.generated.start.index := by
  -- Only together with the order inside of the second span does the relation
  -- carry over from neighbours.
  let Follows (first second : Mapping) : Prop :=
    first.generated.stop.index ≤ second.generated.start.index ∧
      second.generated.start.index ≤ second.generated.stop.index
  have trans : Trans Follows Follows Follows := by
    constructor
    intro first second third near far
    exact ⟨UInt32.le_trans (UInt32.le_trans near.1 near.2) far.1, far.2⟩
  have chain : map.mappings.toList.IsChain Follows := by
    apply inOrder.adjacent.imp_of_mem_imp
    intro first second _ member near
    exact ⟨near, inOrder.forward second member⟩
  exact chain.pairwise.imp fun near => near.1

variable {before after : List Mapping} {mapping : Mapping}
  (split : map.mappings.toList = before ++ mapping :: after)
  {position : Position}
  (inside : mapping.generated.contains position = true)

include split inside

/-- The search stops at the first mapping that has the position. -/
theorem atGenerated?_of_first
    (isFirst : ∀ earlier ∈ before,
      earlier.generated.contains position = false) :
    map.atGenerated? position = some mapping := by
  have ordered := inOrder.pairwise
  have forward := inOrder.forward
  simp only [split, List.mem_append, List.mem_cons] at forward
  rw [split, List.pairwise_append, List.pairwise_cons] at ordered
  rcases ordered with ⟨_, ⟨behind, _⟩, across⟩
  have bounds := inside
  simp only [Span.contains, Bool.and_eq_true, decide_eq_true_eq] at bounds
  have found : map.mappings.toList[before.length]? = some mapping := by
    rw [split, List.getElem?_append_right (Nat.le_refl _), Nat.sub_self]
    rfl
  apply atGenerated?_eq_some found inside
  · intro other earlier isBefore otherFound
    rw [split, List.getElem?_append_left isBefore] at otherFound
    have member := List.mem_of_getElem? otherFound
    have misses := isFirst earlier member
    have reaches : earlier.generated.start.index ≤ position.index :=
      UInt32.le_trans (forward earlier (.inl member))
        (UInt32.le_trans (across earlier member mapping List.mem_cons_self)
          bounds.1)
    simp only [Span.contains, reaches, decide_true, Bool.true_and,
      decide_eq_false_iff_not, UInt32.not_le] at misses
    exact misses
  · intro other later isBehind otherFound
    rw [split, List.getElem?_append_right (Nat.le_of_lt isBehind),
      List.getElem?_cons, if_neg (by omega)] at otherFound
    have member := List.mem_of_getElem? otherFound
    exact UInt32.le_trans bounds.2 (UInt32.le_trans (behind later member)
      (forward later (.inr (.inr member))))

end InOrder

variable {map : SourceMap}

/-- What the search finds is in the map and has the position. -/
theorem mem_of_atGenerated? {position : Position} {mapping : Mapping}
    (found : map.atGenerated? position = some mapping) :
    mapping ∈ map.mappings.toList ∧
      mapping.generated.contains position = true := by
  rw [atGenerated?, Option.filter_eq_some_iff] at found
  exact ⟨Array.mem_toList_iff.mpr (Array.mem_of_getElem? found.1), found.2⟩

/-- Searching is reading through the map. -/
theorem atGenerated?_eq_find? (inOrder : map.InOrder) (position : Position) :
    map.atGenerated? position =
      map.mappings.toList.find? (·.generated.contains position) := by
  rcases read : map.mappings.toList.find? (·.generated.contains position) with
    _ | mapping
  · rw [read]
    rw [List.find?_eq_none] at read
    rcases searched : map.atGenerated? position with _ | mapping
    · rfl
    · rcases mem_of_atGenerated? searched with ⟨member, inside⟩
      exact absurd inside (read mapping member)
  · rw [read]
    rcases List.find?_eq_some_iff_append.mp read with
      ⟨inside, before, after, split, isFirst⟩
    apply inOrder.atGenerated?_of_first split inside
    intro earlier member
    simpa using isFirst earlier member

/-- In a map whose spans follow each other, touching or empty as they may be, a
search finds the first mapping that has the position, and it finds none exactly
if none has it. -/
theorem atGenerated?_finds_first (inOrder : map.InOrder) (position : Position) :
    map.atGenerated? position =
        map.mappings.toList.find? (·.generated.contains position) ∧
      (∀ mapping, map.atGenerated? position = some mapping ↔
        ∃ before after, map.mappings.toList = before ++ mapping :: after ∧
          mapping.generated.contains position = true ∧
          ∀ earlier ∈ before,
            earlier.generated.contains position = false) ∧
      (map.atGenerated? position = none ↔
        ∀ mapping ∈ map.mappings.toList,
          mapping.generated.contains position = false) := by
  have read := atGenerated?_eq_find? inOrder position
  refine ⟨read, ?_, ?_⟩
  · intro mapping
    constructor
    · intro found
      rw [read, List.find?_eq_some_iff_append] at found
      rcases found with ⟨inside, before, after, split, isFirst⟩
      refine ⟨before, after, split, inside, ?_⟩
      intro earlier member
      simpa using isFirst earlier member
    · rintro ⟨before, after, split, inside, isFirst⟩
      exact inOrder.atGenerated?_of_first split inside isFirst
  · rw [read, List.find?_eq_none]
    simp only [Bool.not_eq_true]

/-- Two spans that touch, two empty ones between them, and one apart. -/
def touching : SourceMap :=
  ⟨List.toArray <| [(0, 3), (3, 3), (3, 3), (3, 5), (9, 9)].map
    fun (start, stop) => ⟨default, ⟨start, 0, start⟩, ⟨stop, 0, stop⟩⟩⟩

theorem inOrder_touching : touching.InOrder :=
  ⟨by decide, by decide⟩

/-- Four spans have the position three, and none has the position seven. -/
theorem touching_finds_first :
    touching.InOrder ∧
      touching.atGenerated? ⟨3, 0, 3⟩ = touching.mappings[0]? ∧
      touching.atGenerated? ⟨4, 0, 4⟩ = touching.mappings[3]? ∧
      touching.atGenerated? ⟨7, 0, 7⟩ = none := by
  refine ⟨inOrder_touching, ?_, ?_, ?_⟩
  · rw [(atGenerated?_finds_first inOrder_touching _).1]
    decide
  · rw [(atGenerated?_finds_first inOrder_touching _).1]
    decide
  · rw [(atGenerated?_finds_first inOrder_touching _).2.2]
    decide

end SourceMap

/-! ## Maps of generated files -/

/-- In a code that is short enough, no copy ends before it starts. -/
theorem Code.Copied.forward {code : String} {expression : Expression}
    {mapping : Mapping} (small : code.utf8ByteSize < UInt32.size)
    (copied : Copied code expression mapping) :
    mapping.generated.start.index ≤ mapping.generated.stop.index := by
  rcases (Mapping.Exact.of_copied small copied).ends with
    ⟨before, after, _, start, stop⟩
  have first := congrArg Cursor.index start
  have last := congrArg Cursor.index stop
  simp only [Position.cursor, Cursor.reached, String.utf8ByteSize_append]
    at first last
  rw [UInt32.le_iff_toNat_le]
  omega

/-- The map of a generated file is in order. -/
theorem inOrder_of_generate {file : TemplateFile} {settings : Settings}
    {generated : Generated} (ok : generate file settings = .ok generated)
    (small : generated.code.utf8ByteSize < UInt32.size) :
    generated.map.InOrder := by
  rcases exists_copies ok with ⟨emitted, _, copied⟩
  constructor
  · have both := copied.flip.imp fun _ _ own =>
      And.intro (Code.Copied.forward small own) own
    exact ((List.forall₂_and_left _ _).mp both).1
  · exact (pairwise_mappings ok small).isChain.imp fun _ _ apart =>
      UInt32.le_of_lt apart

end Templating

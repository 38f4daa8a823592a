import Templating.Proofs.Position.Cursor
import Templating.SourceMap

/-!
# Lookups in a source map

A binary search finds the end of the part on which a test holds, if the test
holds up to some place and fails from there on.  In a map whose spans follow
each other the test of a lookup is of that kind.  A position that was found is
moved by differences of counters; when none of them leaves its 32 bits, the move
is the one of unbounded cursors, and it takes a position inside a text to the
same place in a copy of that text.
-/

namespace Templating

/-! ## Searching -/

theorem partitionPoint_eq {test : Nat → Bool} {low high point : Nat}
    (lower : low ≤ point) (upper : point ≤ high)
    (holds : ∀ place, low ≤ place → place < point → test place = true)
    (fails : ∀ place, point ≤ place → place < high → test place = false) :
    partitionPoint test low high = point := by
  induction low, high using partitionPoint.induct test with
  | case1 low high nonempty middle passed inductionHypothesis =>
      have beyond : middle < point := by
        rcases Nat.lt_or_ge middle point with beyond | before
        · exact beyond
        · have failed := fails middle before (by omega)
          rw [passed] at failed
          cases failed
      unfold partitionPoint
      simp only [nonempty, if_true]
      rw [if_pos passed]
      apply inductionHypothesis beyond upper
      · intro place above below
        exact holds place (by omega) below
      · exact fails
  | case2 low high nonempty middle failed inductionHypothesis =>
      have behind : point ≤ middle := by
        rcases Nat.lt_or_ge middle point with before | behind
        · exact absurd (holds middle (by omega) before) failed
        · exact behind
      unfold partitionPoint
      simp only [nonempty, if_true]
      rw [if_neg failed]
      apply inductionHypothesis lower behind holds
      intro place above below
      exact fails place above (by omega)
  | case3 low high empty =>
      rw [partitionPoint, if_neg empty]
      omega

namespace SourceMap

variable {map : SourceMap} {place : Nat} {mapping : Mapping}
  {position : Position}

/-- A lookup finds the mapping that has the position, if all before it end
too early and all behind it do not. -/
theorem atGenerated?_eq_some
    (found : map.mappings.toList[place]? = some mapping)
    (inside : mapping.generated.contains position = true)
    (earlier : ∀ other otherMapping, other < place →
      map.mappings.toList[other]? = some otherMapping →
        otherMapping.generated.stop.index < position.index)
    (later : ∀ other otherMapping, place < other →
      map.mappings.toList[other]? = some otherMapping →
        position.index ≤ otherMapping.generated.stop.index) :
    map.atGenerated? position = some mapping := by
  simp only [Array.getElem?_toList] at found earlier later
  have bound : place < map.mappings.size :=
    (Array.getElem?_eq_some_iff.mp found).1
  have point : map.endingBefore position = place := by
    apply partitionPoint_eq (Nat.zero_le place) (Nat.le_of_lt bound)
    · intro other _ before
      have found := Array.getElem?_eq_getElem (Nat.lt_trans before bound)
      have ends := earlier other _ before found
      simp only [found, decide_eq_true_eq]
      exact ends
    · intro other behind inMap
      have here := Array.getElem?_eq_getElem inMap
      have ends : position.index ≤
          map.mappings[other].generated.stop.index := by
        rcases Nat.eq_or_lt_of_le behind with rfl | behind
        · rw [found, Option.some.injEq] at here
          rw [← here]
          simp only [Span.contains, Bool.and_eq_true,
            decide_eq_true_eq] at inside
          exact inside.2
        · exact later other _ behind here
      simp only [here, decide_eq_false_iff_not, UInt32.not_lt]
      exact ends
  rw [atGenerated?, point, found, Option.filter_some, if_pos inside]

/-- A lookup by template position finds the first mapping that has it. -/
theorem atSource?_eq_some
    (found : map.mappings.toList[place]? = some mapping)
    (inside : mapping.source.contains position = true)
    (earlier : ∀ other otherMapping, other < place →
      map.mappings.toList[other]? = some otherMapping →
        otherMapping.source.contains position = false) :
    map.atSource? position = some mapping := by
  rw [atSource?, ← Array.find?_toList, List.find?_eq_some_iff_getElem]
  rcases List.getElem?_eq_some_iff.mp found with ⟨bound, found⟩
  refine ⟨inside, place, bound, found, ?_⟩
  intro other before
  have own := earlier other _ before
    (List.getElem?_eq_getElem (Nat.lt_trans before bound))
  rw [own]
  rfl

end SourceMap

/-! ## Moving -/

/-- The move of a position without bounds. -/
def Cursor.relocate (cursor origin target : Cursor) : Cursor :=
  if cursor.line = origin.line then
    ⟨target.index + (cursor.index - origin.index), target.line,
      target.column + (cursor.column - origin.column)⟩
  else
    ⟨target.index + (cursor.index - origin.index),
      target.line + (cursor.line - origin.line), cursor.column⟩

/-- A place in a text is moved to the same place in a copy of the text. -/
theorem Cursor.relocate_advance (origin target : Cursor)
    (characters : List Char) :
    (origin.advance characters).relocate origin target =
      target.advance characters := by
  have column := advance_column origin characters
  have copyColumn := advance_column target characters
  have index := advance_index target characters
  have line := advance_line target characters
  rw [relocate, advance_index, advance_line]
  by_cases newline : '\n' ∈ characters
  · have passed : 0 < characters.count '\n' := List.count_pos_iff.mpr newline
    rw [if_neg (by omega)]
    rw [if_pos newline] at column copyColumn
    rw [column, Nat.add_sub_cancel_left, Nat.add_sub_cancel_left, ← index,
      ← line, ← copyColumn]
  · have none : characters.count '\n' = 0 := List.count_eq_zero.mpr newline
    rw [if_pos (by omega)]
    rw [if_neg newline] at column copyColumn
    rw [none, Nat.add_zero] at line
    rw [column, Nat.add_sub_cancel_left, Nat.add_sub_cancel_left, ← index,
      ← line, ← copyColumn]

/-- No difference and no sum of the move of a position leaves its 32 bits. -/
def Position.Relocatable (position origin target : Position) : Prop :=
  (origin.index ≤ position.index ∧
    target.index.toNat + (position.index - origin.index).toNat <
      UInt32.size) ∧
  if position.line = origin.line then
    origin.column ≤ position.column ∧
      target.column.toNat + (position.column - origin.column).toNat <
        UInt32.size
  else
    origin.line ≤ position.line ∧
      target.line.toNat + (position.line - origin.line).toNat < UInt32.size

theorem toNat_add_sub {base larger smaller : UInt32}
    (ordered : smaller ≤ larger)
    (fits : base.toNat + (larger - smaller).toNat < UInt32.size) :
    (base + (larger - smaller)).toNat =
      base.toNat + (larger.toNat - smaller.toNat) := by
  rw [UInt32.toNat_add, Nat.mod_eq_of_lt fits,
    UInt32.toNat_sub_of_le _ _ ordered]

/-- Within 32 bits the move of a position is the move without bounds. -/
theorem Position.Relocatable.cursor {position origin target : Position}
    (relocatable : position.Relocatable origin target) :
    (position.relocate origin target).cursor =
      position.cursor.relocate origin.cursor target.cursor := by
  rcases relocatable with ⟨⟨ordered, fits⟩, moved⟩
  have index := toNat_add_sub ordered fits
  unfold relocate
  unfold Cursor.relocate
  by_cases sameLine : position.line = origin.line
  · have same : position.cursor.line = origin.cursor.line :=
      congrArg UInt32.toNat sameLine
    rw [if_pos sameLine] at moved
    rw [if_pos sameLine, if_pos same]
    have column := toNat_add_sub moved.1 moved.2
    simp only [Position.cursor, index, column]
  · have different : position.cursor.line ≠ origin.cursor.line := by
      intro same
      exact sameLine (UInt32.toNat_inj.mp same)
    rw [if_neg sameLine] at moved
    rw [if_neg sameLine, if_neg different]
    have line := toNat_add_sub moved.1 moved.2
    simp only [Position.cursor, index, line]

section Copies

variable {origin target : Position} {text : String}
  (inOrigin : origin.cursor.FitsAlong text.toList)
  (inTarget : target.cursor.FitsAlong text.toList)

include inOrigin inTarget

/-- The move between two copies of a text that both fit stays in bounds. -/
theorem Position.relocatable_advance :
    (origin.advance text).Relocatable origin target := by
  have reached := Position.cursor_advance inOrigin
  have index := (congrArg Cursor.index reached).trans
    (Cursor.advance_index origin.cursor text.toList)
  have line := (congrArg Cursor.line reached).trans
    (Cursor.advance_line origin.cursor text.toList)
  have column := (congrArg Cursor.column reached).trans
    (Cursor.advance_column origin.cursor text.toList)
  rcases inTarget.here with ⟨indexFits, lineFits, columnFits⟩
  rw [Cursor.advance_index] at indexFits
  rw [Cursor.advance_line] at lineFits
  rw [Cursor.advance_column] at columnFits
  simp only [cursor] at index line column indexFits lineFits columnFits
  have indexOrdered : origin.index ≤ (origin.advance text).index := by
    rw [UInt32.le_iff_toNat_le]
    omega
  refine ⟨⟨indexOrdered, ?_⟩, ?_⟩
  · rw [UInt32.toNat_sub_of_le _ _ indexOrdered]
    omega
  · by_cases sameLine : (origin.advance text).line = origin.line
    · rw [if_pos sameLine]
      have absent : '\n' ∉ text.toList := by
        rw [sameLine] at line
        exact List.count_eq_zero.mp (by omega)
      rw [if_neg absent] at column columnFits
      have columnOrdered : origin.column ≤ (origin.advance text).column := by
        rw [UInt32.le_iff_toNat_le]
        omega
      refine ⟨columnOrdered, ?_⟩
      rw [UInt32.toNat_sub_of_le _ _ columnOrdered]
      omega
    · rw [if_neg sameLine]
      have lineOrdered : origin.line ≤ (origin.advance text).line := by
        rw [UInt32.le_iff_toNat_le]
        omega
      refine ⟨lineOrdered, ?_⟩
      rw [UInt32.toNat_sub_of_le _ _ lineOrdered]
      omega

theorem Position.relocate_advance :
    (origin.advance text).relocate origin target = target.advance text := by
  apply cursor_injective
  rw [(relocatable_advance inOrigin inTarget).cursor, cursor_advance inOrigin,
    cursor_advance inTarget, Cursor.relocate_advance]

end Copies

end Templating

import Templating.Position
import Templating.Text.Bytes

/-!
# Cursors without bounds

A position counts in 32 bits and stops at the largest value.  A cursor counts
the same three things in natural numbers.  As long as every cursor on the way
fits into 32 bits, a position follows the cursor exactly, and what the cursor
counts has a closed form: bytes, newlines, and the scalar values since the last
newline.  Everywhere else a position is the cursor with its counters cut off.
-/

namespace Templating

/-- The UTF-8 bytes of some characters. -/
def byteCount (characters : List Char) : Nat :=
  (characters.map Char.utf8Size).foldr (· + ·) 0

/-- The characters behind the last newline. -/
def sinceNewline (characters : List Char) : Nat :=
  (characters.reverse.takeWhile (· ≠ '\n')).length

@[simp]
theorem byteCount_nil : byteCount [] = 0 := rfl

@[simp]
theorem byteCount_cons (character : Char) (rest : List Char) :
    byteCount (character :: rest) = character.utf8Size + byteCount rest :=
  rfl

@[simp]
theorem byteCount_append (first second : List Char) :
    byteCount (first ++ second) = byteCount first + byteCount second := by
  induction first with
  | nil => simp
  | cons character rest inductionHypothesis =>
      simp only [List.cons_append, byteCount_cons, inductionHypothesis]
      omega

theorem length_le_byteCount (characters : List Char) :
    characters.length ≤ byteCount characters := by
  induction characters with
  | nil => simp
  | cons character rest inductionHypothesis =>
      have positive := character.utf8Size_pos
      simp only [List.length_cons, byteCount_cons]
      omega

theorem utf8ByteSize_ofList (characters : List Char) :
    (String.ofList characters).utf8ByteSize = byteCount characters := by
  induction characters with
  | nil => rfl
  | cons character rest inductionHypothesis =>
      have split : String.ofList (character :: rest) =
          String.singleton character ++ String.ofList rest := by
        apply String.toList_injective
        simp
      rw [split, String.utf8ByteSize_append, String.utf8ByteSize_singleton,
        inductionHypothesis, byteCount_cons]

@[simp]
theorem byteCount_toList (text : String) :
    byteCount text.toList = text.utf8ByteSize := by
  rw [← utf8ByteSize_ofList, String.ofList_toList]

@[simp]
theorem Text.length_bytes (text : String) :
    (Text.bytes text).length = text.utf8ByteSize := by
  simp [Text.bytes]

/-- What is counted from a line's start does not depend on what came before
that line. -/
theorem sinceNewline_append_newline (before rest : List Char) :
    sinceNewline (before ++ '\n' :: rest) = sinceNewline ('\n' :: rest) := by
  simp only [sinceNewline, List.reverse_append, List.reverse_cons,
    List.append_assoc, List.takeWhile_append]
  split <;> simp

theorem sinceNewline_of_not_mem {characters : List Char}
    (absent : '\n' ∉ characters) :
    sinceNewline characters = characters.length := by
  have all : ∀ character ∈ characters.reverse, decide (character ≠ '\n') := by
    intro character member
    have : character ≠ '\n' := by
      rintro rfl
      exact absent (List.mem_reverse.mp member)
    simpa using this
  rw [sinceNewline, ← List.append_nil characters.reverse,
    List.takeWhile_append_of_pos all]
  simp

/-- A cursor in a text whose counters have no largest value. -/
structure Cursor where
  index : Nat
  line : Nat
  column : Nat
  deriving DecidableEq, Repr

namespace Cursor

/-- The cursor before the first character. -/
def origin : Cursor := ⟨0, 0, 0⟩

/-- The cursor after one more character. -/
def next (cursor : Cursor) (character : Char) : Cursor :=
  if character = '\n' then
    ⟨cursor.index + character.utf8Size, cursor.line + 1, 0⟩
  else
    ⟨cursor.index + character.utf8Size, cursor.line, cursor.column + 1⟩

/-- The cursor after a run of characters. -/
def advance (cursor : Cursor) (characters : List Char) : Cursor :=
  characters.foldl next cursor

/-- The cursor that reading a text leads to: its bytes, its newlines, and the
scalar values behind the last of them. -/
def reached (text : String) : Cursor :=
  ⟨text.utf8ByteSize, text.toList.count '\n', sinceNewline text.toList⟩

@[simp]
theorem advance_nil (cursor : Cursor) : cursor.advance [] = cursor := rfl

@[simp]
theorem advance_cons (cursor : Cursor) (character : Char) (rest : List Char) :
    cursor.advance (character :: rest) = (cursor.next character).advance rest :=
  rfl

theorem advance_append (cursor : Cursor) (first second : List Char) :
    cursor.advance (first ++ second) = (cursor.advance first).advance second :=
  List.foldl_append

theorem index_next (cursor : Cursor) (character : Char) :
    (cursor.next character).index = cursor.index + character.utf8Size := by
  unfold next
  split <;> rfl

theorem advance_index (cursor : Cursor) (characters : List Char) :
    (cursor.advance characters).index =
      cursor.index + byteCount characters := by
  induction characters generalizing cursor with
  | nil => simp
  | cons character rest inductionHypothesis =>
      rw [advance_cons, inductionHypothesis, index_next, byteCount_cons]
      omega

theorem advance_line (cursor : Cursor) (characters : List Char) :
    (cursor.advance characters).line =
      cursor.line + characters.count '\n' := by
  induction characters generalizing cursor with
  | nil => simp
  | cons character rest inductionHypothesis =>
      rw [advance_cons, inductionHypothesis, List.count_cons]
      by_cases newline : character = '\n'
      · simp only [next, newline, if_true, beq_self_eq_true]
        omega
      · simp [next, newline]

/-- On the first line the column moves along; behind a newline it is counted
from that newline. -/
theorem advance_column (cursor : Cursor) (characters : List Char) :
    (cursor.advance characters).column =
      if '\n' ∈ characters then sinceNewline characters
      else cursor.column + characters.length := by
  induction characters generalizing cursor with
  | nil => simp
  | cons character rest inductionHypothesis =>
      rw [advance_cons, inductionHypothesis]
      by_cases later : '\n' ∈ rest
      · obtain ⟨before, behind, rfl⟩ := List.append_of_mem later
        rw [if_pos later, if_pos (List.mem_cons_of_mem _ later),
          ← List.cons_append, sinceNewline_append_newline,
          sinceNewline_append_newline]
      · rw [if_neg later]
        by_cases newline : character = '\n'
        · have own : sinceNewline ('\n' :: rest) = rest.length := by
            rw [sinceNewline, List.reverse_cons, List.takeWhile_append_of_pos]
            · simp
            · intro other member
              have : other ≠ '\n' := by
                rintro rfl
                exact later (List.mem_reverse.mp member)
              simpa using this
          simp [next, newline, own]
        · have absent : '\n' ∉ character :: rest := by
            simp only [List.mem_cons, not_or]
            exact ⟨Ne.symm newline, later⟩
          rw [if_neg absent, next, if_neg newline, List.length_cons]
          simp only
          omega

/-- Reading a text from its start counts it. -/
theorem advance_origin (text : String) :
    origin.advance text.toList = reached text := by
  have column := advance_column origin text.toList
  have since : (origin.advance text.toList).column =
      sinceNewline text.toList := by
    by_cases newline : '\n' ∈ text.toList
    · rw [column, if_pos newline]
    · rw [column, if_neg newline, sinceNewline_of_not_mem newline]
      simp [origin]
  have index := advance_index origin text.toList
  have line := advance_line origin text.toList
  simp only [origin, byteCount_toList, Nat.zero_add] at index line
  rw [reached, ← since, ← index, ← line]
  rfl

/-- Every counter has room in 32 bits. -/
def Fits (cursor : Cursor) : Prop :=
  cursor.index < UInt32.size ∧ cursor.line < UInt32.size ∧
    cursor.column < UInt32.size

/-- Every cursor on the way over some characters fits. -/
def FitsAlong (cursor : Cursor) (characters : List Char) : Prop :=
  ∀ part, part <+: characters → (cursor.advance part).Fits

theorem FitsAlong.part {cursor : Cursor} {first second : List Char}
    (fits : cursor.FitsAlong (first ++ second)) :
    cursor.FitsAlong first := by
  intro part isPrefix
  exact fits part (isPrefix.trans (List.prefix_append first second))

theorem FitsAlong.here {cursor : Cursor} {characters : List Char}
    (fits : cursor.FitsAlong characters) :
    (cursor.advance characters).Fits :=
  fits characters (List.prefix_refl characters)

/-- Every counter has room for as much as the bytes of some characters. -/
def HasRoom (cursor : Cursor) (characters : List Char) : Prop :=
  cursor.index + byteCount characters < UInt32.size ∧
    cursor.line + byteCount characters < UInt32.size ∧
    cursor.column + byteCount characters < UInt32.size

instance (cursor : Cursor) (characters : List Char) :
    Decidable (cursor.HasRoom characters) :=
  inferInstanceAs (Decidable (_ ∧ _ ∧ _))

/-- No counter grows by more than the bytes that are read. -/
theorem HasRoom.fitsAlong {cursor : Cursor} {characters : List Char}
    (room : cursor.HasRoom characters) : cursor.FitsAlong characters := by
  rintro part ⟨rest, rfl⟩
  rcases room with ⟨index, line, column⟩
  rw [byteCount_append] at index line column
  have length := length_le_byteCount part
  have newlines : part.count '\n' ≤ part.length := List.count_le_length
  have since : sinceNewline part ≤ part.length := by
    have sublist : (part.reverse.takeWhile (· ≠ '\n')).Sublist part.reverse :=
      List.takeWhile_sublist _
    simpa [sinceNewline] using sublist.length_le
  refine ⟨?_, ?_, ?_⟩
  · rw [advance_index]
    omega
  · rw [advance_line]
    omega
  · rw [advance_column]
    split <;> omega

/-- A text of less than 2^32 bytes can be read from its start. -/
theorem fitsAlong_origin {characters : List Char}
    (small : byteCount characters < UInt32.size) :
    origin.FitsAlong characters := by
  have room : origin.HasRoom characters := by
    simp only [HasRoom, origin, Nat.zero_add]
    exact ⟨small, small, small⟩
  exact room.fitsAlong

end Cursor

/-! ## Counters at their largest value -/

/-- A number in 32 bits, or the largest value if it is too large. -/
def capped (number : Nat) : UInt32 :=
  UInt32.ofNat (min number (UInt32.size - 1))

theorem toNat_capped (number : Nat) :
    (capped number).toNat = min number (UInt32.size - 1) := by
  have fits : min number (UInt32.size - 1) < UInt32.size := by
    have : 0 < UInt32.size := by decide
    omega
  rw [capped, UInt32.toNat_ofNat_of_lt' fits]

theorem saturatingAdd_capped (number amount : Nat) :
    saturatingAdd (capped number) amount = capped (number + amount) := by
  have same : min (min number (UInt32.size - 1) + amount) (UInt32.size - 1) =
      min (number + amount) (UInt32.size - 1) := by
    omega
  rw [saturatingAdd, toNat_capped, same, capped]

theorem capped_toNat (counter : UInt32) : capped counter.toNat = counter := by
  apply UInt32.toNat_inj.mp
  rw [toNat_capped]
  have bounded := counter.toNat_lt_size
  omega

theorem saturatingAdd_zero (counter : UInt32) :
    saturatingAdd counter 0 = counter := by
  rw [← capped_toNat counter, saturatingAdd_capped, Nat.add_zero]

theorem saturatingAdd_add (counter : UInt32) (first second : Nat) :
    saturatingAdd (saturatingAdd counter first) second =
      saturatingAdd counter (first + second) := by
  rw [← capped_toNat counter, saturatingAdd_capped, saturatingAdd_capped,
    saturatingAdd_capped, Nat.add_assoc]

theorem le_saturatingAdd (counter : UInt32) (amount : Nat) :
    counter ≤ saturatingAdd counter amount := by
  have bounded := counter.toNat_lt_size
  rw [UInt32.le_iff_toNat_le, ← capped_toNat counter, saturatingAdd_capped,
    toNat_capped, toNat_capped]
  omega

/-- The position of a cursor, with every counter that is too large at the
largest value. -/
def Cursor.capped (cursor : Cursor) : Position :=
  ⟨Templating.capped cursor.index, Templating.capped cursor.line,
    Templating.capped cursor.column⟩

/-! ## Positions and their cursors -/

namespace Position

/-- The cursor that a position stands for. -/
def cursor (position : Position) : Cursor :=
  ⟨position.index.toNat, position.line.toNat, position.column.toNat⟩

@[simp]
theorem cursor_origin : origin.cursor = .origin := rfl

theorem cursor_injective : Function.Injective cursor := by
  rintro ⟨index, line, column⟩ ⟨index', line', column'⟩ equal
  simp only [cursor, Cursor.mk.injEq] at equal
  rcases equal with ⟨sameIndex, sameLine, sameColumn⟩
  rw [UInt32.toNat_inj.mp sameIndex, UInt32.toNat_inj.mp sameLine,
    UInt32.toNat_inj.mp sameColumn]

/-- The position after one more character and its bytes. -/
def next (position : Position) (character : Char) : Position :=
  { position.pass character with
    index := saturatingAdd position.index character.utf8Size }

theorem pass_withIndex (position : Position) (index : UInt32)
    (character : Char) :
    { position with index }.pass character =
      { position.pass character with index } := by
  unfold pass
  split <;> rfl

theorem foldl_pass_withIndex (characters : List Char) (position : Position)
    (index : UInt32) :
    characters.foldl pass { position with index } =
      { characters.foldl pass position with index } := by
  induction characters generalizing position with
  | nil => rfl
  | cons character rest inductionHypothesis =>
      rw [List.foldl_cons, List.foldl_cons, pass_withIndex,
        inductionHypothesis]

theorem foldl_next (characters : List Char) (position : Position) :
    characters.foldl next position =
      { characters.foldl pass position with
        index := saturatingAdd position.index (byteCount characters) } := by
  induction characters generalizing position with
  | nil =>
      rw [byteCount_nil, saturatingAdd_zero]
      rfl
  | cons character rest inductionHypothesis =>
      rw [List.foldl_cons, List.foldl_cons, inductionHypothesis, next,
        foldl_pass_withIndex, saturatingAdd_add, byteCount_cons]

/-- The bytes of a text can as well be added one character after the other. -/
theorem advance_eq_foldl (position : Position) (text : String) :
    position.advance text = text.toList.foldl next position := by
  rw [foldl_next, byteCount_toList, advance]

@[simp]
theorem advance_empty (position : Position) :
    position.advance "" = position := by
  rw [advance_eq_foldl]
  rfl

theorem advance_append (position : Position) (first second : String) :
    position.advance (first ++ second) =
      (position.advance first).advance second := by
  simp only [advance_eq_foldl, String.toList_append, List.foldl_append]

theorem next_capped (cursor : Cursor) (character : Char) :
    cursor.capped.next character = (cursor.next character).capped := by
  unfold next pass Cursor.next
  by_cases newline : character = '\n'
  · rw [if_pos newline, if_pos newline]
    simp only [Cursor.capped, saturatingAdd_capped]
    rfl
  · rw [if_neg newline, if_neg newline]
    simp only [Cursor.capped, saturatingAdd_capped]

/-- A counter that stops at its largest value stands where it would stand if it
had counted on and were cut off at the end. -/
theorem advance_eq_capped (position : Position) (text : String) :
    position.advance text = (position.cursor.advance text.toList).capped := by
  have start : position = position.cursor.capped := by
    simp only [Cursor.capped, cursor, capped_toNat]
  rw [advance_eq_foldl]
  generalize text.toList = characters
  generalize position.cursor = cursor at start ⊢
  subst start
  induction characters generalizing cursor with
  | nil => rfl
  | cons character rest inductionHypothesis =>
      rw [Cursor.advance_cons, ← inductionHypothesis, ← next_capped]
      rfl

/-- Where the cursor fits, the position follows it. -/
theorem cursor_advance {position : Position} {text : String}
    (fits : position.cursor.FitsAlong text.toList) :
    (position.advance text).cursor = position.cursor.advance text.toList := by
  rcases fits.here with ⟨index, line, column⟩
  rw [advance_eq_capped, cursor, Cursor.capped, toNat_capped, toNat_capped,
    toNat_capped, Nat.min_eq_left (Nat.le_sub_one_of_lt index),
    Nat.min_eq_left (Nat.le_sub_one_of_lt line),
    Nat.min_eq_left (Nat.le_sub_one_of_lt column)]

/-- A position read from the start of a text of less than 2^32 bytes counts
that text. -/
theorem cursor_advance_origin {text : String}
    (small : text.utf8ByteSize < UInt32.size) :
    (origin.advance text).cursor = .reached text := by
  have fits : origin.cursor.FitsAlong text.toList := by
    rw [cursor_origin]
    apply Cursor.fitsAlong_origin
    rwa [byteCount_toList]
  rw [cursor_advance fits, cursor_origin, Cursor.advance_origin]

/-- A whole text moves every counter at once: the bytes by its size, the lines
by its newlines, and the column by its length or, if it has a newline, to what
stands behind the last one. -/
theorem advance_eq (position : Position) (text : String) :
    position.advance text =
      ⟨saturatingAdd position.index text.utf8ByteSize,
        saturatingAdd position.line (text.toList.count '\n'),
        if '\n' ∈ text.toList then
          saturatingAdd 0 (sinceNewline text.toList)
        else
          saturatingAdd position.column text.length⟩ := by
  rw [advance_eq_capped, Cursor.capped, Cursor.advance_index,
    Cursor.advance_line, Cursor.advance_column, byteCount_toList,
    String.length_toList, mk.injEq]
  refine ⟨rfl, rfl, ?_⟩
  split
  · rw [saturatingAdd, UInt32.toNat_zero, Nat.zero_add, capped]
  · rfl

end Position

end Templating

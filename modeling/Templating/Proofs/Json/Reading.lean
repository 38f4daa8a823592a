import Templating.Proofs.Json.Text

/-!
# Written values are read back

A value may be written with gaps between its parts and with its strings in any
spelling.  Reading such a text gives the value and leaves what stands behind it.
A number ends only where something else begins, so the statement for values is
about text behind them that cannot belong to a number; inside arrays and objects
this is a gap, a comma or a closing bracket.

The compact text that is printed for a value is one way of writing it.

Decimals are left out: their digits are rounded in steps when they are read, so
not all of them come back.
-/

namespace Templating

@[simp]
theorem JsonInteger.ofInt?_value (number : JsonInteger) :
    JsonInteger.ofInt? number.value = some number :=
  dif_pos number.inRange

namespace Json

/-! ## Numbers -/

/-- Nothing at the start of the text could belong to a number before it. -/
def EndsNumber (rest : List Char) : Prop :=
  ∀ first ∈ rest.head?,
    first.isDigit = false ∧ first ≠ '.' ∧ first ≠ 'e' ∧ first ≠ 'E'

theorem endsNumber_nil : EndsNumber [] := by
  intro first isHead
  cases isHead

theorem endsNumber_cons {first : Char} {rest : List Char}
    (isMark : first ∈ [',', ']', '\x7d']) : EndsNumber (first :: rest) := by
  intro other isHead
  cases isHead
  simp only [List.mem_cons, List.not_mem_nil, or_false] at isMark
  rcases isMark with rfl | rfl | rfl <;> decide

theorem toDigits_cons (number : Nat) :
    ∃ first rest, Nat.toDigits 10 number = first :: rest ∧
      first.isDigit = true := by
  rcases digits : Nat.toDigits 10 number with _ | ⟨first, rest⟩
  · exact absurd digits Nat.toDigits_ne_nil
  · have member : first ∈ Nat.toDigits 10 number := by
      rw [digits]
      exact List.mem_cons_self
    exact ⟨first, rest, rfl,
      Nat.isDigit_of_mem_toDigits (by omega) (by omega) member⟩

/-- Only zero starts with the digit zero. -/
theorem toDigits_ne_zero_cons {number : Nat} (positive : 0 < number) :
    ∀ rest, Nat.toDigits 10 number ≠ '0' :: rest := by
  induction number using Nat.strongRecOn with
  | ind number inductionHypothesis =>
      intro rest same
      by_cases small : number < 10
      · rw [Nat.toDigits_of_lt_base small, List.cons.injEq] at same
        have value := Nat.toNat_digitChar_of_lt_ten small
        rw [same.1] at value
        simp at value
        omega
      · rw [Nat.toDigits_of_base_le (by omega) (by omega)] at same
        rcases toDigits_cons (number / 10) with ⟨first, others, digits, _⟩
        rw [digits, List.cons_append, List.cons.injEq] at same
        rw [same.1] at digits
        exact inductionHypothesis (number / 10) (by omega) (by omega) others
          digits

theorem readDigits_toDigits (number : Nat) {rest : List Char}
    (ends : EndsNumber rest) :
    readDigits (Nat.toDigits 10 number ++ rest) =
      .ok (Nat.toDigits 10 number, rest) := by
  have allDigits : ∀ digit ∈ Nat.toDigits 10 number, digit.isDigit = true := by
    intro digit member
    exact Nat.isDigit_of_mem_toDigits (by omega) (by omega) member
  have noDigits : rest.takeWhile Char.isDigit = [] ∧
      rest.dropWhile Char.isDigit = rest := by
    cases rest with
    | nil => exact ⟨rfl, rfl⟩
    | cons first tail => simp [(ends first rfl).1]
  rcases toDigits_cons number with ⟨first, others, digits, isDigit⟩
  rw [digits] at allDigits ⊢
  rw [List.cons_append, readDigits, if_pos isDigit, ← List.cons_append,
    List.takeWhile_append_of_pos allDigits,
    List.dropWhile_append_of_pos allDigits, noDigits.1, noDigits.2,
    List.append_nil]

theorem readWhole_toDigits (number : Nat) {rest : List Char}
    (ends : EndsNumber rest) :
    readWhole (Nat.toDigits 10 number ++ rest) =
      .ok (Nat.toDigits 10 number, rest) := by
  rw [readWhole, readDigits_toDigits number ends]
  simp only [bind, Except.bind]
  split
  · rename_i digits
    rcases Nat.eq_zero_or_pos number with rfl | positive
    · cases digits
    · exact absurd digits (toDigits_ne_zero_cons positive _)
  · rfl

theorem readUnsigned_toDigits (negative : Bool) (number : Nat)
    {rest : List Char} (ends : EndsNumber rest) :
    readUnsigned negative (Nat.toDigits 10 number ++ rest) =
      .ok (ofNumber negative (Nat.toDigits 10 number) none none, rest) := by
  have noPlaces : readPlaces rest = .ok (none, rest) := by
    unfold readPlaces
    split
    · exact absurd rfl (ends '.' rfl).2.1
    · rfl
  have noExponent : readExponent rest = .ok (none, rest) := by
    unfold readExponent
    split
    · exact absurd rfl (ends 'e' rfl).2.2.1
    · exact absurd rfl (ends 'E' rfl).2.2.2
    · rfl
  rw [readUnsigned, readWhole_toDigits number ends]
  show (readPlaces rest >>= _) = _
  rw [noPlaces]
  show (readExponent rest >>= _) = _
  rw [noExponent]
  rfl

/-- Digits and a sign are the integer that they write. -/
theorem ofNumber_toDigits (negative : Bool) {magnitude : Nat}
    {number : JsonInteger}
    (same : (if negative then -(magnitude : Int) else magnitude) = number.value)
    (noMinusZero : ¬(negative && magnitude = 0) = true) :
    ofNumber negative (Nat.toDigits 10 magnitude) none none =
      .integer number := by
  rw [ofNumber, Nat.ofDigitChars_ten_toDigits]
  simp only [if_neg noMinusZero, same, JsonInteger.ofInt?_value]

theorem readNumber_writtenInteger (number : JsonInteger) {rest : List Char}
    (ends : EndsNumber rest) :
    readNumber (writtenInteger number.value ++ rest) =
      .ok (.integer number, rest) := by
  by_cases negative : number.value < 0
  · have magnitude : -(number.value.natAbs : Int) = number.value := by omega
    have nonzero : ¬(true && number.value.natAbs = 0) = true := by
      rw [Bool.true_and, decide_eq_true_eq]
      omega
    rw [writtenInteger, if_pos negative, List.cons_append, readNumber,
      readUnsigned_toDigits true _ ends]
    rw [ofNumber_toDigits true magnitude nonzero]
  · have magnitude : (number.value.natAbs : Int) = number.value := by omega
    rcases toDigits_cons number.value.natAbs with
      ⟨first, others, digits, isDigit⟩
    have unsigned : readNumber (Nat.toDigits 10 number.value.natAbs ++ rest) =
        readUnsigned false (Nat.toDigits 10 number.value.natAbs ++ rest) := by
      rw [digits, List.cons_append, readNumber]
      intro _ same
      rw [List.cons.injEq] at same
      rw [same.1] at isDigit
      cases isDigit
    rw [writtenInteger, if_neg negative, unsigned,
      readUnsigned_toDigits false _ ends]
    rw [ofNumber_toDigits false magnitude Bool.false_ne_true]

/-- A written integer starts with a digit or a sign. -/
theorem writtenInteger_cons (number : Int) :
    ∃ first rest, writtenInteger number = first :: rest ∧
      (first = '-' ∨ first.isDigit = true) := by
  unfold writtenInteger
  split
  · exact ⟨_, _, rfl, .inl rfl⟩
  · rcases toDigits_cons number.natAbs with ⟨first, rest, digits, isDigit⟩
    exact ⟨first, rest, digits, .inr isDigit⟩

/-- The first character of a number is none that other values start or end
with. -/
theorem starts_number {first : Char}
    (starts : first = '-' ∨ first.isDigit = true) :
    isGap first = false ∧
      first ∉ ['n', 't', 'f', '"', '[', ']', '\x7b'] := by
  rcases starts with rfl | isDigit
  · decide
  · have differs : ∀ other : Char, other.isDigit = false → first ≠ other := by
      rintro other notDigit rfl
      rw [isDigit] at notDigit
      cases notDigit
    simp [isGap, differs]

/-! ## Discrete values -/

mutual

/-- No part of the value is a decimal or denotes nothing. -/
def discrete : Json → Bool
  | .decimal _ _ => false
  | .unreadable => false
  | .array items => discreteItems items
  | .object fields => discreteFields fields
  | _ => true

def discreteItems : List Json → Bool
  | [] => true
  | item :: rest => item.discrete && discreteItems rest

def discreteFields : List (String × Json) → Bool
  | [] => true
  | (_, value) :: rest => value.discrete && discreteFields rest

end

theorem discreteItems_iff {items : List Json} :
    discreteItems items = true ↔ ∀ item ∈ items, item.discrete = true := by
  induction items with
  | nil => simp [discreteItems]
  | cons item rest inductionHypothesis =>
      simp [discreteItems, inductionHypothesis]

theorem discreteFields_iff {fields : List (String × Json)} :
    discreteFields fields = true ↔
      ∀ field ∈ fields, field.2.discrete = true := by
  induction fields with
  | nil => simp [discreteFields]
  | cons field rest inductionHypothesis =>
      rw [discreteFields, Bool.and_eq_true, inductionHypothesis,
        List.forall_mem_cons]

/-! ## Ways of writing -/

/-- Nothing but characters between the parts of a text. -/
def IsBlank (gap : List Char) : Prop :=
  ∀ character ∈ gap, isGap character = true

mutual

/-- The text is a way of writing the value: with gaps between its parts, and
with every character of a string in one of its spellings. -/
inductive WrittenAs : Json → List Char → Prop where
  | null : WrittenAs .null "null".toList
  | yes : WrittenAs (.boolean true) "true".toList
  | no : WrittenAs (.boolean false) "false".toList
  | integer (number : JsonInteger) :
      WrittenAs (.integer number) (writtenInteger number.value)
  | text {value : String} {spelling : List Char}
      (spells : SpellsText value.toList spelling) :
      WrittenAs (.text value) ('"' :: (spelling ++ ['"']))
  | emptyArray {gap : List Char} (blank : IsBlank gap) :
      WrittenAs (.array []) ('[' :: (gap ++ [']']))
  | array {gap first later : List Char} {item : Json} {items : List Json}
      (blank : IsBlank gap) (here : WrittenAs item first)
      (others : ItemsWrittenAs items later) :
      WrittenAs (.array (item :: items)) ('[' :: (gap ++ (first ++ later)))
  | emptyObject {gap : List Char} (blank : IsBlank gap) :
      WrittenAs (.object []) ('\x7b' :: (gap ++ ['\x7d']))
  | object {gap first later : List Char} {field : String × Json}
      {fields : List (String × Json)} (blank : IsBlank gap)
      (here : FieldWrittenAs field first)
      (others : FieldsWrittenAs fields later) :
      WrittenAs (.object (field :: fields))
        ('\x7b' :: (gap ++ (first ++ later)))

/-- The items behind the first one, and the closing bracket. -/
inductive ItemsWrittenAs : List Json → List Char → Prop where
  | close {gap : List Char} (blank : IsBlank gap) :
      ItemsWrittenAs [] (gap ++ [']'])
  | next {gap inner first later : List Char} {item : Json} {items : List Json}
      (blank : IsBlank gap) (blankInner : IsBlank inner)
      (here : WrittenAs item first) (others : ItemsWrittenAs items later) :
      ItemsWrittenAs (item :: items)
        (gap ++ ',' :: (inner ++ (first ++ later)))

/-- One field: a name, a colon and a value. -/
inductive FieldWrittenAs : String × Json → List Char → Prop where
  | field {name : String} {value : Json}
      {spelling gap inner content : List Char}
      (spells : SpellsText name.toList spelling) (blank : IsBlank gap)
      (blankInner : IsBlank inner) (written : WrittenAs value content) :
      FieldWrittenAs (name, value)
        ('"' :: (spelling ++ '"' :: (gap ++ ':' :: (inner ++ content))))

/-- The fields behind the first one, and the closing brace. -/
inductive FieldsWrittenAs : List (String × Json) → List Char → Prop where
  | close {gap : List Char} (blank : IsBlank gap) :
      FieldsWrittenAs [] (gap ++ ['\x7d'])
  | next {gap inner first later : List Char} {field : String × Json}
      {fields : List (String × Json)} (blank : IsBlank gap)
      (blankInner : IsBlank inner) (here : FieldWrittenAs field first)
      (others : FieldsWrittenAs fields later) :
      FieldsWrittenAs (field :: fields)
        (gap ++ ',' :: (inner ++ (first ++ later)))

end

/-- The text holds a way of writing the value and blanks around it. -/
def IsTextOf (value : Json) (text : String) : Prop :=
  ∃ before content behind, IsBlank before ∧ WrittenAs value content ∧
    IsBlank behind ∧ text.toList = before ++ (content ++ behind)

/-! ## Ends of numbers -/

theorem endsNumber_gap {gap rest : List Char} (blank : IsBlank gap)
    (ends : EndsNumber rest) : EndsNumber (gap ++ rest) := by
  cases gap with
  | nil => exact ends
  | cons first others =>
      intro other isHead
      cases isHead
      have isBlank := blank first List.mem_cons_self
      simp only [isGap, Bool.or_eq_true, decide_eq_true_eq] at isBlank
      rcases isBlank with ((rfl | rfl) | rfl) | rfl <;> decide

theorem endsNumber_items {items : List Json} {later : List Char}
    (written : ItemsWrittenAs items later) (rest : List Char) :
    EndsNumber (later ++ rest) := by
  cases written with
  | close blank =>
      rw [List.append_assoc]
      exact endsNumber_gap blank (endsNumber_cons (by decide))
  | next blank blankInner here others =>
      rw [List.append_assoc]
      exact endsNumber_gap blank (endsNumber_cons (by decide))

theorem endsNumber_fields {fields : List (String × Json)} {later : List Char}
    (written : FieldsWrittenAs fields later) (rest : List Char) :
    EndsNumber (later ++ rest) := by
  cases written with
  | close blank =>
      rw [List.append_assoc]
      exact endsNumber_gap blank (endsNumber_cons (by decide))
  | next blank blankInner here others =>
      rw [List.append_assoc]
      exact endsNumber_gap blank (endsNumber_cons (by decide))

/-! ## Room for nesting -/

section Room

variable {passesOver : Place → Bool} {levels count : Nat}

/-- There is room for some more levels: as many are left, or all of what is read
is passed over. -/
def HasRoom (passesOver : Place → Bool) (levels count : Nat) : Prop :=
  count ≤ levels ∨ ∀ place, passesOver place = true

theorem HasRoom.mono {fewer : Nat} (room : HasRoom passesOver levels count)
    (le : fewer ≤ count) : HasRoom passesOver levels fewer :=
  room.imp_left (Nat.le_trans le)

theorem HasRoom.below (room : HasRoom passesOver levels count)
    (step : PlaceStep) :
    HasRoom (Place.below step passesOver) levels count :=
  room.imp_right fun passed place => passed (step :: place)

theorem HasRoom.opens (room : HasRoom passesOver levels (count + 1)) :
    mayOpen passesOver levels = true := by
  rw [mayOpen, Bool.or_eq_true, decide_eq_true_eq]
  rcases room with enough | passed
  · exact .inr (Nat.zero_lt_of_lt enough)
  · exact .inl (passed [])

theorem HasRoom.inside (room : HasRoom passesOver levels (count + 1)) :
    HasRoom passesOver (levels - 1) count :=
  room.imp_left Nat.le_sub_one_of_lt

theorem hasRoom_ignored (levels count : Nat) :
    HasRoom Place.ignored levels count :=
  .inr fun _ => rfl

end Room

/-! ## Steps of reading -/

section Steps

variable {passesOver : Place → Bool} {levels fuel : Nat} {gap rest : List Char}

theorem skipGap_cons {first : Char} (shown : isGap first = false) :
    skipGap (first :: rest) = first :: rest :=
  List.dropWhile_cons_of_neg (by simp [shown])

theorem skipGap_append (blank : IsBlank gap) :
    skipGap (gap ++ rest) = skipGap rest :=
  List.dropWhile_append_of_pos blank

theorem readValue_gap (blank : IsBlank gap) :
    readValue passesOver levels fuel (gap ++ rest) =
      readValue passesOver levels fuel rest := by
  cases fuel with
  | zero => rfl
  | succ fuel => simp only [readValue, skipGap_append blank]

theorem readMoreItems_gap {index : Nat} (blank : IsBlank gap) :
    readMoreItems passesOver levels index fuel (gap ++ rest) =
      readMoreItems passesOver levels index fuel rest := by
  cases fuel with
  | zero => rfl
  | succ fuel => simp only [readMoreItems, skipGap_append blank]

theorem readField_gap (blank : IsBlank gap) :
    readField passesOver levels fuel (gap ++ rest) =
      readField passesOver levels fuel rest := by
  cases fuel with
  | zero => rfl
  | succ fuel => simp only [readField, skipGap_append blank]

theorem readMoreFields_gap (blank : IsBlank gap) :
    readMoreFields passesOver levels fuel (gap ++ rest) =
      readMoreFields passesOver levels fuel rest := by
  cases fuel with
  | zero => rfl
  | succ fuel => simp only [readMoreFields, skipGap_append blank]

theorem readValue_number {first : Char}
    (starts : first = '-' ∨ first.isDigit = true) :
    readValue passesOver levels (fuel + 1) (first :: rest) =
      (readNumber (first :: rest)).mapError (numberFault passesOver) := by
  rcases starts_number starts with ⟨shown, others⟩
  have isNumber : (first = '-' || first.isDigit) = true := by
    simpa using starts
  simp only [List.mem_cons, List.not_mem_nil, or_false, not_or] at others
  simp only [readValue, skipGap_cons shown]
  split
  case h_8 same =>
    rw [List.cons.injEq] at same
    rw [← same.1, ← same.2]
    exact if_pos isNumber
  all_goals simp_all

theorem readValue_emptyArray (opens : mayOpen passesOver levels = true)
    (blank : IsBlank gap) :
    readValue passesOver levels (fuel + 1) ('[' :: (gap ++ ']' :: rest)) =
      .ok (.array [], rest) := by
  have outside : skipGap ('[' :: (gap ++ ']' :: rest)) =
      '[' :: (gap ++ ']' :: rest) := rfl
  have inside : skipGap (gap ++ ']' :: rest) = ']' :: rest :=
    skipGap_append blank
  simp only [readValue, outside, inside, opens, if_true]

theorem readValue_array {first : Char} {inside after : List Char} {item : Json}
    {items : List Json} (opens : mayOpen passesOver levels = true)
    (blank : IsBlank gap) (shown : isGap first = false)
    (isItem : first ≠ ']')
    (readFirst : readValue (Place.below (.item 0) passesOver) (levels - 1) fuel
      (first :: inside) = .ok (item, after))
    (readOthers : readMoreItems passesOver (levels - 1) 1 fuel after =
      .ok (items, rest)) :
    readValue passesOver levels (fuel + 1)
        ('[' :: (gap ++ first :: inside)) =
      .ok (.array (item :: items), rest) := by
  have outside : skipGap ('[' :: (gap ++ first :: inside)) =
      '[' :: (gap ++ first :: inside) := rfl
  simp only [readValue, outside, skipGap_append blank, skipGap_cons shown,
    opens, if_true]
  split
  · rename_i closes
    rw [List.cons.injEq] at closes
    exact absurd closes.1 isItem
  · rw [readFirst]
    show (readMoreItems passesOver (levels - 1) 1 fuel after >>= _) = _
    rw [readOthers]
    rfl

theorem readMoreItems_cons {index : Nat} {inside after : List Char}
    {item : Json} {items : List Json}
    (readFirst : readValue (Place.below (.item index) passesOver) levels fuel
      inside = .ok (item, after))
    (readOthers : readMoreItems passesOver levels (index + 1) fuel after =
      .ok (items, rest)) :
    readMoreItems passesOver levels index (fuel + 1) (',' :: inside) =
      .ok (item :: items, rest) := by
  show (readValue _ levels fuel inside >>= _) = _
  rw [readFirst]
  show (readMoreItems passesOver levels (index + 1) fuel after >>= _) = _
  rw [readOthers]
  rfl

theorem readField_spelled {name : String} {spelling inside : List Char}
    {value : Json} (spells : SpellsText name.toList spelling)
    (blank : IsBlank gap)
    (readContent : readValue (Place.below (.field name) passesOver) levels fuel
      inside = .ok (value, rest)) :
    readField passesOver levels (fuel + 1)
        ('"' :: (spelling ++ '"' :: (gap ++ ':' :: inside))) =
      .ok ((some name, value), rest) := by
  have colon : skipGap (gap ++ ':' :: inside) = ':' :: inside :=
    skipGap_append blank
  show (readText (spelling ++ '"' :: (gap ++ ':' :: inside)) >>= _) = _
  rw [readText_spelled spells]
  simp only [bind, Except.bind, colon, readContent]

theorem readValue_emptyObject (opens : mayOpen passesOver levels = true)
    (blank : IsBlank gap) :
    readValue passesOver levels (fuel + 1)
        ('\x7b' :: (gap ++ '\x7d' :: rest)) =
      .ok (.object [], rest) := by
  have outside : skipGap ('\x7b' :: (gap ++ '\x7d' :: rest)) =
      '\x7b' :: (gap ++ '\x7d' :: rest) := rfl
  have inside : skipGap (gap ++ '\x7d' :: rest) = '\x7d' :: rest :=
    skipGap_append blank
  simp only [readValue, outside, inside, opens, if_true]

theorem readValue_object {inside after : List Char}
    {field : Option String × Json} {fields : List (Option String × Json)}
    (opens : mayOpen passesOver levels = true) (blank : IsBlank gap)
    (readFirst : readField passesOver (levels - 1) fuel ('"' :: inside) =
      .ok (field, after))
    (readOthers : readMoreFields passesOver (levels - 1) fuel after =
      .ok (fields, rest)) :
    readValue passesOver levels (fuel + 1)
        ('\x7b' :: (gap ++ '"' :: inside)) =
      .ok (ofFields (field :: fields), rest) := by
  have outside : skipGap ('\x7b' :: (gap ++ '"' :: inside)) =
      '\x7b' :: (gap ++ '"' :: inside) := rfl
  have quoted : skipGap (gap ++ '"' :: inside) = '"' :: inside :=
    skipGap_append blank
  simp only [readValue, outside, quoted, opens, if_true]
  show (readField passesOver (levels - 1) fuel ('"' :: inside) >>= _) = _
  rw [readFirst]
  show (readMoreFields passesOver (levels - 1) fuel after >>= _) = _
  rw [readOthers]
  rfl

theorem readMoreFields_cons {inside after : List Char}
    {field : Option String × Json} {fields : List (Option String × Json)}
    (readFirst : readField passesOver levels fuel inside = .ok (field, after))
    (readOthers : readMoreFields passesOver levels fuel after =
      .ok (fields, rest)) :
    readMoreFields passesOver levels (fuel + 1) (',' :: inside) =
      .ok (field :: fields, rest) := by
  show (readField passesOver levels fuel inside >>= _) = _
  rw [readFirst]
  show (readMoreFields passesOver levels fuel after >>= _) = _
  rw [readOthers]
  rfl

end Steps

/-- Fields as they are read. -/
def namedFields (fields : List (String × Json)) : List (Option String × Json) :=
  fields.map fun (name, value) => (some name, value)

theorem ofFields_namedFields (fields : List (String × Json)) :
    ofFields (namedFields fields) = .object fields := by
  have named : (namedFields fields).mapM
      (fun (field : Option String × Json) => field.1.map (·, field.2)) =
      some fields := by
    induction fields with
    | nil => rfl
    | cons field others inductionHypothesis =>
        rw [namedFields] at inductionHypothesis ⊢
        rw [List.map_cons, List.mapM_cons, inductionHypothesis]
        rfl
  unfold ofFields
  split
  · rename_i found
    rw [Option.some.inj (found.symm.trans named)]
  · rename_i missing
    cases missing.symm.trans named

/-! ## Values -/

/-- Every way of writing the value is read with as much fuel as it has
characters, if there is room for its levels. -/
def ReadBack (value : Json) : Prop :=
  ∀ {content : List Char}, WrittenAs value content →
    ∀ {passesOver : Place → Bool} {levels fuel : Nat},
      HasRoom passesOver levels value.levels → content.length ≤ fuel →
        ∀ {rest : List Char}, EndsNumber rest →
          readValue passesOver levels fuel (content ++ rest) = .ok (value, rest)

/-- A value is written with a character of its own in front. -/
theorem WrittenAs.starts {value : Json} {content : List Char}
    (written : WrittenAs value content) :
    ∃ first rest, content = first :: rest ∧ isGap first = false ∧
      first ≠ ']' := by
  cases written with
  | integer number =>
      rcases writtenInteger_cons number.value with
        ⟨first, rest, digits, starts⟩
      have marks := starts_number starts
      refine ⟨first, rest, digits, marks.1, ?_⟩
      rintro rfl
      exact absurd marks.2 (by decide)
  | _ => exact ⟨_, _, rfl, rfl, by decide⟩

section Values

variable {passesOver : Place → Bool} {levels fuel : Nat}

theorem readField_writtenAs {field : String × Json} {content : List Char}
    (written : FieldWrittenAs field content) (isRead : ReadBack field.2)
    (room : HasRoom passesOver levels field.2.levels)
    (enough : content.length ≤ fuel) {rest : List Char}
    (ends : EndsNumber rest) :
    readField passesOver levels fuel (content ++ rest) =
      .ok ((some field.1, field.2), rest) := by
  cases written with
  | field spells blank blankInner written =>
      simp only [List.length_cons, List.length_append] at enough
      rcases fuel with _ | fuel
      · omega
      simp only [List.cons_append, List.append_assoc]
      apply readField_spelled spells blank
      rw [readValue_gap blankInner]
      exact isRead written (room.below _) (by omega) ends

mutual

theorem readBack (value : Json) : ReadBack value := by
  intro content written passesOver levels fuel room enough rest ends
  rcases fuel with _ | fuel
  · rcases written.starts with ⟨first, others, starts, _⟩
    rw [starts] at enough
    cases enough
  match value with
  | .null =>
      cases written
      rfl
  | .boolean true =>
      cases written
      rfl
  | .boolean false =>
      cases written
      rfl
  | .integer number =>
      cases written
      rcases writtenInteger_cons number.value with
        ⟨first, others, digits, starts⟩
      rw [digits, List.cons_append, readValue_number starts,
        ← List.cons_append, ← digits, readNumber_writtenInteger number ends]
      rfl
  | .decimal _ _ => cases written
  | .text value =>
      cases written with
      | text spells =>
          rw [List.cons_append, List.append_assoc]
          show (readText _ >>= _) = _
          rw [List.singleton_append, readText_spelled spells]
          rfl
  | .array [] =>
      cases written with
      | emptyArray blank =>
          rw [List.cons_append, List.append_assoc]
          exact readValue_emptyArray room.opens blank
  | .array (item :: items) =>
      cases written with
      | array blank here others =>
          simp only [List.length_cons, List.length_append] at enough
          have roomItem := room.inside.mono (Nat.le_max_left _ _)
          have roomItems := room.inside.mono (Nat.le_max_right _ _)
          have readFirst : readValue (Place.below (.item 0) passesOver)
              (levels - 1) fuel (_ ++ (_ ++ rest)) = .ok (item, _) :=
            readBack item here (roomItem.below _) (by omega)
              (endsNumber_items others rest)
          have readOthers : readMoreItems passesOver (levels - 1) 1 fuel
              (_ ++ rest) = .ok (items, rest) :=
            readItems_writtenAs items others roomItems (by omega) rest
          rcases here.starts with ⟨first, inside, starts, shown, isItem⟩
          rw [starts, List.cons_append] at readFirst
          simp only [starts, List.cons_append, List.append_assoc]
          exact readValue_array room.opens blank shown isItem readFirst
            readOthers
  | .object [] =>
      cases written with
      | emptyObject blank =>
          rw [List.cons_append, List.append_assoc]
          exact readValue_emptyObject room.opens blank
  | .object ((name, value) :: fields) =>
      cases written with
      | object blank here others =>
          simp only [List.length_cons, List.length_append] at enough
          have roomField := room.inside.mono (Nat.le_max_left _ _)
          have roomFields := room.inside.mono (Nat.le_max_right _ _)
          have readFirst : readField passesOver (levels - 1) fuel
              (_ ++ (_ ++ rest)) = .ok ((some name, value), _) :=
            readField_writtenAs here (readBack value) roomField (by omega)
              (endsNumber_fields others rest)
          have readOthers : readMoreFields passesOver (levels - 1) fuel
              (_ ++ rest) = .ok (namedFields fields, rest) :=
            readFields_writtenAs fields others roomFields (by omega) rest
          rw [← ofFields_namedFields]
          cases here with
          | field spells blankName blankInner content =>
              simp only [List.cons_append, List.append_assoc] at readFirst ⊢
              exact readValue_object room.opens blank readFirst readOthers
  | .unreadable => cases written

theorem readItems_writtenAs (items : List Json) {content : List Char}
    (written : ItemsWrittenAs items content) {passesOver : Place → Bool}
    {levels index fuel : Nat}
    (room : HasRoom passesOver levels (levelsItems items))
    (enough : content.length ≤ fuel) (rest : List Char) :
    readMoreItems passesOver levels index fuel (content ++ rest) =
      .ok (items, rest) := by
  match items with
  | [] =>
      cases written with
      | close blank =>
          simp only [List.length_append, List.length_singleton] at enough
          rcases fuel with _ | fuel
          · omega
          rw [List.append_assoc, readMoreItems_gap blank]
          rfl
  | item :: items =>
      cases written with
      | next blank blankInner here others =>
          simp only [List.length_append, List.length_cons] at enough
          rcases fuel with _ | fuel
          · omega
          have roomItem := room.mono (Nat.le_max_left _ _)
          have roomItems := room.mono (Nat.le_max_right _ _)
          simp only [List.append_assoc, List.cons_append]
          rw [readMoreItems_gap blank]
          apply readMoreItems_cons
          · rw [readValue_gap blankInner]
            exact readBack item here (roomItem.below _) (by omega)
              (endsNumber_items others rest)
          · exact readItems_writtenAs items others roomItems (by omega) rest

theorem readFields_writtenAs (fields : List (String × Json))
    {content : List Char} (written : FieldsWrittenAs fields content)
    {passesOver : Place → Bool} {levels fuel : Nat}
    (room : HasRoom passesOver levels (levelsFields fields))
    (enough : content.length ≤ fuel) (rest : List Char) :
    readMoreFields passesOver levels fuel (content ++ rest) =
      .ok (namedFields fields, rest) := by
  match fields with
  | [] =>
      cases written with
      | close blank =>
          simp only [List.length_append, List.length_singleton] at enough
          rcases fuel with _ | fuel
          · omega
          rw [List.append_assoc, readMoreFields_gap blank]
          rfl
  | (name, value) :: fields =>
      cases written with
      | next blank blankInner here others =>
          simp only [List.length_append, List.length_cons] at enough
          rcases fuel with _ | fuel
          · omega
          have roomField := room.mono (Nat.le_max_left _ _)
          have roomFields := room.mono (Nat.le_max_right _ _)
          simp only [List.append_assoc, List.cons_append]
          rw [readMoreFields_gap blank]
          apply readMoreFields_cons
          · rw [readField_gap blankInner]
            exact readField_writtenAs here (readBack value) roomField
              (by omega) (endsNumber_fields others rest)
          · exact readFields_writtenAs fields others roomFields (by omega) rest

end

/-- A value is read from every text that holds a way of writing it, if there is
room for its levels. -/
theorem readFor_textOf {value : Json} {text : String}
    (isText : IsTextOf value text)
    (room : HasRoom passesOver levelLimit value.levels) :
    readFor passesOver text = .ok value := by
  rcases isText with ⟨before, content, behind, blank, written, blankBehind, same⟩
  have enough : content.length ≤ fuelFor (before ++ (content ++ behind)) := by
    simp only [fuelFor, List.length_append]
    omega
  have ends : EndsNumber behind := by
    have atEnd := endsNumber_gap blankBehind endsNumber_nil
    rwa [List.append_nil] at atEnd
  have nothing : skipGap behind = [] := by
    have atEnd : skipGap (behind ++ []) = skipGap [] :=
      skipGap_append blankBehind
    rwa [List.append_nil] at atEnd
  rw [readFor, same, readValue_gap blank,
    readBack value written room enough ends]
  show (if (skipGap behind).isEmpty then _ else _) = _
  rw [nothing]
  rfl

end Values

/-- Without a limit a value of any nesting is read. -/
theorem read_textOf {value : Json} {text : String}
    (isText : IsTextOf value text) : read text = .ok value :=
  readFor_textOf isText (hasRoom_ignored _ _)

/-! ## Printed values -/

theorem isBlank_nil : IsBlank [] := by
  intro character member
  cases member

theorem fieldWrittenAs_written (name : String) {value : Json}
    (here : WrittenAs value (written value)) :
    FieldWrittenAs (name, value)
      (writtenText name.toList ++ ':' :: written value) := by
  have field := FieldWrittenAs.field
    (spellsText_flatMap_writtenChar name.toList) isBlank_nil isBlank_nil here
  simpa [writtenText] using field

mutual

/-- The compact text is a way of writing a value. -/
theorem writtenAs_written (value : Json) (isDiscrete : value.discrete = true) :
    WrittenAs value (written value) := by
  match value with
  | .null => exact .null
  | .boolean true => exact .yes
  | .boolean false => exact .no
  | .integer number => exact .integer number
  | .decimal _ _ => cases isDiscrete
  | .text value => exact .text (spellsText_flatMap_writtenChar value.toList)
  | .array [] => exact .emptyArray isBlank_nil
  | .array (item :: items) =>
      rw [discrete, discreteItems, Bool.and_eq_true] at isDiscrete
      exact .array isBlank_nil (writtenAs_written item isDiscrete.1)
        (writtenAs_writtenItems items isDiscrete.2)
  | .object [] => exact .emptyObject isBlank_nil
  | .object ((name, value) :: fields) =>
      rw [discrete, discreteFields, Bool.and_eq_true] at isDiscrete
      have here := fieldWrittenAs_written name
        (writtenAs_written value isDiscrete.1)
      have object := WrittenAs.object isBlank_nil here
        (writtenAs_writtenFields fields isDiscrete.2)
      simpa [written] using object
  | .unreadable => cases isDiscrete

theorem writtenAs_writtenItems (items : List Json)
    (isDiscrete : discreteItems items = true) :
    ItemsWrittenAs items (writtenItems items) := by
  match items with
  | [] => exact .close isBlank_nil
  | item :: items =>
      rw [discreteItems, Bool.and_eq_true] at isDiscrete
      exact .next isBlank_nil isBlank_nil (writtenAs_written item isDiscrete.1)
        (writtenAs_writtenItems items isDiscrete.2)

theorem writtenAs_writtenFields (fields : List (String × Json))
    (isDiscrete : discreteFields fields = true) :
    FieldsWrittenAs fields (writtenFields fields) := by
  match fields with
  | [] => exact .close isBlank_nil
  | (name, value) :: fields =>
      rw [discreteFields, Bool.and_eq_true] at isDiscrete
      have here := fieldWrittenAs_written name
        (writtenAs_written value isDiscrete.1)
      have next := FieldsWrittenAs.next isBlank_nil isBlank_nil here
        (writtenAs_writtenFields fields isDiscrete.2)
      simpa [writtenFields] using next

end

/-- What is printed for a value is a text of it. -/
theorem isTextOf_print {value : Json} (isDiscrete : value.discrete = true) :
    IsTextOf value value.print := by
  refine ⟨[], written value, [], isBlank_nil, writtenAs_written value isDiscrete,
    isBlank_nil, ?_⟩
  rw [print, String.toList_ofList, List.nil_append, List.append_nil]

/-- A discrete value is read back from its text. -/
theorem read_print {value : Json} (isDiscrete : value.discrete = true) :
    read value.print = .ok value :=
  read_textOf (isTextOf_print isDiscrete)

end Json

end Templating

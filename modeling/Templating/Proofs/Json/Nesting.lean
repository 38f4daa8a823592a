import Templating.Proofs.Json.Record

/-!
# Limited nesting

A reader that asks for some places of a value refuses more texts than one that
passes over all of them, and reads the same value from the others.  A reader
that passes over nothing accepts exactly the values with enough levels.
-/

namespace Templating.Json

/-! ## Less strict readers -/

section Refinement

variable {ε α β : Type}

/-- The second result is the first one, unless the first one is a fault. -/
def Refines (first second : Except ε α) : Prop :=
  ∀ value, first = .ok value → second = .ok value

theorem refines_self (result : Except ε α) : Refines result result :=
  fun _ ok => ok

theorem refines_error (fault : ε) (second : Except ε α) :
    Refines (.error fault) second :=
  fun _ ok => nomatch ok

theorem Refines.bind {first second : Except ε α}
    {next after : α → Except ε β} (refines : Refines first second)
    (later : ∀ value, Refines (next value) (after value)) :
    Refines (first >>= next) (second >>= after) := by
  intro value ok
  rcases bind_eq_ok.mp ok with ⟨found, here, rest⟩
  exact bind_eq_ok.mpr ⟨found, refines found here, later found value rest⟩

theorem mapError_eq_ok {result : Except ε α} {change : ε → ε} {value : α} :
    result.mapError change = .ok value ↔ result = .ok value := by
  cases result with
  | error fault =>
      constructor
      · intro ok
        cases ok
      · intro ok
        cases ok
  | ok found => exact Iff.rfl

theorem refines_mapError (result : Except ε α) (change other : ε → ε) :
    Refines (result.mapError change) (result.mapError other) :=
  fun _ ok => mapError_eq_ok.mpr (mapError_eq_ok.mp ok)

end Refinement

theorem mayOpen_ignored (levels : Nat) :
    mayOpen Place.ignored levels = true := rfl

/-- What is read with some fuel is also read by a reader that passes over the
whole value, with any levels left. -/
structure AllRefine (fuel : Nat) : Prop where
  values : ∀ passesOver levels more characters,
    Refines (readValue passesOver levels fuel characters)
      (readValue Place.ignored more fuel characters)
  items : ∀ passesOver levels more index characters,
    Refines (readMoreItems passesOver levels index fuel characters)
      (readMoreItems Place.ignored more index fuel characters)
  field : ∀ passesOver levels more characters,
    Refines (readField passesOver levels fuel characters)
      (readField Place.ignored more fuel characters)
  fields : ∀ passesOver levels more characters,
    Refines (readMoreFields passesOver levels fuel characters)
      (readMoreFields Place.ignored more fuel characters)

namespace AllRefine

variable {fuel : Nat} (all : AllRefine fuel) (passesOver : Place → Bool)
  (levels more : Nat) (characters : List Char)

include all

theorem readValue_succ :
    Refines (readValue passesOver levels (fuel + 1) characters)
      (readValue Place.ignored more (fuel + 1) characters) := by
  simp only [readValue]
  split
  case h_6 =>
    rw [if_pos (mayOpen_ignored more)]
    split
    · split
      · exact refines_self _
      · refine (all.values _ _ _ _).bind fun item => ?_
        exact (all.items _ _ _ _ _).bind fun others => refines_self _
    · exact refines_error _ _
  case h_7 =>
    rw [if_pos (mayOpen_ignored more)]
    split
    · split
      · exact refines_self _
      · refine (all.field _ _ _ _).bind fun field => ?_
        exact (all.fields _ _ _ _).bind fun others => refines_self _
    · exact refines_error _ _
  case h_8 =>
    split
    · exact refines_mapError _ _ _
    · exact refines_self _
  all_goals exact refines_self _

theorem readMoreItems_succ (index : Nat) :
    Refines (readMoreItems passesOver levels index (fuel + 1) characters)
      (readMoreItems Place.ignored more index (fuel + 1) characters) := by
  simp only [readMoreItems]
  split
  case h_3 =>
    refine (all.values _ _ _ _).bind fun item => ?_
    exact (all.items _ _ _ _ _).bind fun others => refines_self _
  all_goals exact refines_self _

theorem readField_succ :
    Refines (readField passesOver levels (fuel + 1) characters)
      (readField Place.ignored more (fuel + 1) characters) := by
  simp only [readField]
  split
  case h_2 =>
    refine (refines_self _).bind fun name => ?_
    split
    case h_2 => exact (all.values _ _ _ _).bind fun value => refines_self _
    all_goals exact refines_self _
  all_goals exact refines_self _

theorem readMoreFields_succ :
    Refines (readMoreFields passesOver levels (fuel + 1) characters)
      (readMoreFields Place.ignored more (fuel + 1) characters) := by
  simp only [readMoreFields]
  split
  case h_3 =>
    refine (all.field _ _ _ _).bind fun field => ?_
    exact (all.fields _ _ _ _).bind fun others => refines_self _
  all_goals exact refines_self _

end AllRefine

/-- By induction on the fuel: every reader calls the others with less of it. -/
theorem allRefine (fuel : Nat) : AllRefine fuel := by
  induction fuel with
  | zero =>
      constructor
      · exact fun _ _ _ _ => refines_error _ _
      · exact fun _ _ _ _ _ => refines_error _ _
      · exact fun _ _ _ _ => refines_error _ _
      · exact fun _ _ _ _ => refines_error _ _
  | succ fuel all =>
      constructor
      · exact all.readValue_succ
      · intro passesOver levels more index characters
        exact all.readMoreItems_succ passesOver levels more characters index
      · exact all.readField_succ
      · exact all.readMoreFields_succ

/-- A text that is accepted by some reader is read alike without a limit. -/
theorem read_of_readFor {passesOver : Place → Bool} {text : String}
    {value : Json} (ok : readFor passesOver text = .ok value) :
    read text = .ok value := by
  rcases bind_eq_ok.mp ok with ⟨found, here, atEnd⟩
  exact bind_eq_ok.mpr
    ⟨found, (allRefine _).values _ _ _ _ found here, atEnd⟩

/-! ## Readers that pass over nothing -/

section Yields

variable {ε α β : Type}

/-- The result has a property, unless it is a fault. -/
def Yields (result : Except ε α) (property : α → Prop) : Prop :=
  ∀ value, result = .ok value → property value

theorem yields_ok {value : α} {property : α → Prop} (holds : property value) :
    Yields (.ok value : Except ε α) property := by
  intro other ok
  cases ok
  exact holds

theorem yields_error (fault : ε) (property : α → Prop) :
    Yields (.error fault) property :=
  fun _ ok => nomatch ok

theorem Yields.bind {first : Except ε α} {next : α → Except ε β}
    {found : α → Prop} {property : β → Prop} (yields : Yields first found)
    (later : ∀ value, found value → Yields (next value) property) :
    Yields (first >>= next) property := by
  intro value ok
  rcases bind_eq_ok.mp ok with ⟨result, here, rest⟩
  exact later result (yields result here) value rest

theorem yields_bind {first : Except ε α} {next : α → Except ε β}
    {property : β → Prop} (later : ∀ value, Yields (next value) property) :
    Yields (first >>= next) property :=
  Yields.bind (fun _ _ => trivial) fun value (_ : True) => later value

end Yields

theorem levels_ofNumber (negative : Bool) (whole : List Char)
    (places : Option (List Char)) (exponent : Option Int) :
    (ofNumber negative whole places exponent).levels = 0 := by
  have decimal : ∀ whole places exponent,
      (ofDecimal negative whole places exponent).levels = 0 := by
    intro whole places exponent
    unfold ofDecimal
    simp only
    split <;> rfl
  unfold ofNumber
  split
  · simp only
    split
    · exact decimal _ _ _
    · split
      · rfl
      · exact decimal _ _ _
  · exact decimal _ _ _

theorem readUnsigned_scalar (negative : Bool) (characters : List Char) :
    Yields (readUnsigned negative characters) fun found =>
      found.1.levels = 0 := by
  unfold readUnsigned
  refine yields_bind fun whole => yields_bind fun places =>
    yields_bind fun exponent => yields_ok ?_
  exact levels_ofNumber _ _ _ _

theorem readNumber_scalar (characters : List Char) :
    Yields (readNumber characters) fun found => found.1.levels = 0 := by
  unfold readNumber
  split
  · exact readUnsigned_scalar _ _
  · exact readUnsigned_scalar _ _

theorem mayOpen_needed {levels : Nat} :
    mayOpen Place.needed levels = true ↔ 0 < levels := by
  simp [mayOpen, Place.needed]

/-- Names that denote texts do not change the values behind them. -/
theorem levelsFields_named_le {fields : List (Option String × Json)}
    {named : List (String × Json)} {levels : Nat}
    (same : (fields.mapM fun (name?, value) => name?.map (·, value)) =
      some named)
    (each : ∀ field ∈ fields, field.2.levels ≤ levels) :
    levelsFields named ≤ levels := by
  induction fields generalizing named with
  | nil =>
      cases same
      exact Nat.zero_le _
  | cons field rest inductionHypothesis =>
      rcases field with ⟨_ | name, value⟩
      · cases same
      · simp only [List.mapM_cons, Option.map_some, Option.pure_def,
          Option.bind_eq_bind, Option.bind_some, Option.bind_eq_some_iff,
          Option.some.injEq] at same
        rcases same with ⟨others, found, rfl⟩
        rw [List.forall_mem_cons] at each
        exact Nat.max_le.mpr ⟨each.1, inductionHypothesis found each.2⟩

theorem levels_ofFields_le {fields : List (Option String × Json)} {levels : Nat}
    (each : ∀ field ∈ fields, field.2.levels ≤ levels) :
    (ofFields fields).levels ≤ levels + 1 := by
  unfold ofFields
  split
  case h_1 same => exact Nat.succ_le_succ (levelsFields_named_le same each)
  case h_2 => exact Nat.zero_le _

/-- What is read with some fuel has no more levels than are left. -/
structure AllWithin (fuel : Nat) : Prop where
  values : ∀ levels characters,
    Yields (readValue Place.needed levels fuel characters) fun found =>
      found.1.levels ≤ levels
  items : ∀ levels index characters,
    Yields (readMoreItems Place.needed levels index fuel characters)
      fun found => levelsItems found.1 ≤ levels
  field : ∀ levels characters,
    Yields (readField Place.needed levels fuel characters) fun found =>
      found.1.2.levels ≤ levels
  fields : ∀ levels characters,
    Yields (readMoreFields Place.needed levels fuel characters) fun found =>
      ∀ field ∈ found.1, field.2.levels ≤ levels

namespace AllWithin

variable {fuel : Nat} (all : AllWithin fuel) (levels : Nat)
  (characters : List Char)

include all

theorem readValue_succ :
    Yields (readValue Place.needed levels (fuel + 1) characters) fun found =>
      found.1.levels ≤ levels := by
  simp only [readValue]
  split
  case h_1 => exact yields_error _ _
  case h_5 =>
    refine yields_bind fun text => yields_ok ?_
    cases text.1 <;> exact Nat.zero_le _
  case h_6 =>
    split
    case isTrue opens =>
      have left := mayOpen_needed.mp opens
      split
      · exact yields_ok left
      · refine (all.values _ _).bind fun item here => ?_
        refine (all.items _ _ _).bind fun others later => yields_ok ?_
        exact Nat.add_le_of_le_sub left (Nat.max_le.mpr ⟨here, later⟩)
    case isFalse => exact yields_error _ _
  case h_7 =>
    split
    case isTrue opens =>
      have left := mayOpen_needed.mp opens
      split
      · exact yields_ok left
      · refine (all.field _ _).bind fun field here => ?_
        refine (all.fields _ _).bind fun others later => yields_ok ?_
        have inside :=
          levels_ofFields_le (List.forall_mem_cons.mpr ⟨here, later⟩)
        rwa [Nat.sub_add_cancel left] at inside
    case isFalse => exact yields_error _ _
  case h_8 =>
    split
    · intro found ok
      have scalar := readNumber_scalar _ found (mapError_eq_ok.mp ok)
      rw [scalar]
      exact Nat.zero_le _
    · exact yields_error _ _
  all_goals exact yields_bind fun rest => yields_ok (Nat.zero_le _)

theorem readMoreItems_succ (index : Nat) :
    Yields (readMoreItems Place.needed levels index (fuel + 1) characters)
      fun found => levelsItems found.1 ≤ levels := by
  simp only [readMoreItems]
  split
  case h_2 => exact yields_ok (Nat.zero_le _)
  case h_3 =>
    refine (all.values _ _).bind fun item here => ?_
    refine (all.items _ _ _).bind fun others later => yields_ok ?_
    exact Nat.max_le.mpr ⟨here, later⟩
  all_goals exact yields_error _ _

theorem readField_succ :
    Yields (readField Place.needed levels (fuel + 1) characters) fun found =>
      found.1.2.levels ≤ levels := by
  simp only [readField]
  split
  case h_2 =>
    refine yields_bind fun name => ?_
    split
    case h_2 => exact (all.values _ _).bind fun value within => yields_ok within
    all_goals exact yields_error _ _
  all_goals exact yields_error _ _

theorem readMoreFields_succ :
    Yields (readMoreFields Place.needed levels (fuel + 1) characters)
      fun found => ∀ field ∈ found.1, field.2.levels ≤ levels := by
  simp only [readMoreFields]
  split
  case h_2 => exact yields_ok (List.forall_mem_nil _)
  case h_3 =>
    refine (all.field _ _).bind fun field here => ?_
    refine (all.fields _ _).bind fun others later => yields_ok ?_
    exact List.forall_mem_cons.mpr ⟨here, later⟩
  all_goals exact yields_error _ _

end AllWithin

/-- By induction on the fuel, as for `allRefine`. -/
theorem allWithin (fuel : Nat) : AllWithin fuel := by
  induction fuel with
  | zero =>
      constructor
      · exact fun _ _ => yields_error _ _
      · exact fun _ _ _ => yields_error _ _
      · exact fun _ _ => yields_error _ _
      · exact fun _ _ => yields_error _ _
  | succ fuel all =>
      constructor
      · exact all.readValue_succ
      · intro levels index characters
        exact all.readMoreItems_succ levels characters index
      · exact all.readField_succ
      · exact all.readMoreFields_succ

theorem readFor_needed_within (text : String) :
    Yields (readFor Place.needed text) fun value =>
      value.levels ≤ levelLimit := by
  refine ((allWithin _).values _ _).bind ?_
  rintro ⟨value, rest⟩ within
  show Yields (if (skipGap rest).isEmpty then _ else _) _
  split
  · exact yields_ok within
  · exact yields_error _ _

/-- A reader that passes over nothing reads a value from its texts if and only
if the limit allows for its levels. -/
theorem readFor_needed_iff {value : Json} {text : String}
    (isText : IsTextOf value text) :
    readFor Place.needed text = .ok value ↔ value.levels ≤ levelLimit := by
  constructor
  · exact readFor_needed_within text value
  · intro enough
    exact readFor_textOf isText (.inl enough)

/-- With one level left an array in an array is refused, unless it is passed
over. -/
example : readValue Place.needed 1 9 "[[]]".toList = .error .malformed := rfl

example : readValue Place.ignored 1 9 "[[]]".toList =
    .ok (.array [.array []], []) := rfl

end Templating.Json

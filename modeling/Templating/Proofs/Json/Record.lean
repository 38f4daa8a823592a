import Templating.Json.Record
import Templating.Proofs.Json.Reading

/-!
# Written records are decoded

An object whose names are all different and all asked for is passed on as it is,
and so is a tagged one behind its tag.  Together with the equations for one
field and for lists this turns decoding an encoded record into rewriting.
-/

namespace Templating.Json

/-! ## Results -/

section Results

variable {ε α β : Type}

-- The parentheses keep these two from being unfolded instead of rewritten.
@[simp]
theorem ok_bind (value : α) (next : α → Except ε β) :
    (Except.ok value >>= next) = next value := (rfl)

@[simp]
theorem ok_map (value : α) (next : α → β) :
    next <$> (Except.ok value : Except ε α) = .ok (next value) := (rfl)

theorem bind_eq_ok {first : Except ε α} {next : α → Except ε β} {value : β} :
    (first >>= next) = .ok value ↔
      ∃ found, first = .ok found ∧ next found = .ok value := by
  cases first with
  | error fault =>
      constructor
      · intro ok
        cases ok
      · rintro ⟨_, ok, _⟩
        cases ok
  | ok found => simp

end Results

/-! ## Readable values -/

mutual

theorem readable_of_discrete (value : Json)
    (isDiscrete : value.discrete = true) : value.readable = true := by
  match value with
  | .null => rfl
  | .boolean _ => rfl
  | .integer _ => rfl
  | .decimal _ _ => rfl
  | .text _ => rfl
  | .array items => exact readableItems_of_discrete items isDiscrete
  | .object fields => exact readableFields_of_discrete fields isDiscrete
  | .unreadable => cases isDiscrete

theorem readableItems_of_discrete (items : List Json)
    (isDiscrete : discreteItems items = true) :
    readableItems items = true := by
  match items with
  | [] => rfl
  | item :: rest =>
      rw [discreteItems, Bool.and_eq_true] at isDiscrete
      rw [readableItems, Bool.and_eq_true]
      constructor
      · exact readable_of_discrete item isDiscrete.1
      · exact readableItems_of_discrete rest isDiscrete.2

theorem readableFields_of_discrete (fields : List (String × Json))
    (isDiscrete : discreteFields fields = true) :
    readableFields fields = true := by
  match fields with
  | [] => rfl
  | (_, value) :: rest =>
      rw [discreteFields, Bool.and_eq_true] at isDiscrete
      rw [readableFields, Bool.and_eq_true]
      constructor
      · exact readable_of_discrete value isDiscrete.1
      · exact readableFields_of_discrete rest isDiscrete.2

end

/-! ## Levels -/

theorem levels_lt_of_mem_items {items : List Json} {item : Json}
    (member : item ∈ items) : item.levels < (array items).levels := by
  show item.levels < levelsItems items + 1
  rw [Nat.lt_succ_iff]
  induction items with
  | nil => cases member
  | cons first rest inductionHypothesis =>
      rw [levelsItems]
      rcases List.mem_cons.mp member with rfl | later
      · exact Nat.le_max_left _ _
      · exact Nat.le_trans (inductionHypothesis later) (Nat.le_max_right _ _)

theorem levels_lt_of_mem_fields {fields : List (String × Json)}
    {field : String × Json} (member : field ∈ fields) :
    field.2.levels < (object fields).levels := by
  show field.2.levels < levelsFields fields + 1
  rw [Nat.lt_succ_iff]
  induction fields with
  | nil => cases member
  | cons first rest inductionHypothesis =>
      rw [levelsFields]
      rcases List.mem_cons.mp member with rfl | later
      · exact Nat.le_max_left _ _
      · exact Nat.le_trans (inductionHypothesis later) (Nat.le_max_right _ _)

theorem levels_filter_le (fields : List (String × Json))
    (keep : String × Json → Bool) :
    (object (fields.filter keep)).levels ≤ (object fields).levels := by
  rw [levels, levels, Nat.add_le_add_iff_right]
  induction fields with
  | nil => exact Nat.le_refl _
  | cons field rest inductionHypothesis =>
      rw [List.filter_cons, levelsFields]
      split
      · rw [levelsFields]
        omega
      · omega

/-! ## Objects -/

theorem occurrences_le_one {fields : List (String × Json)}
    (distinct : (fields.map Prod.fst).Nodup) (name : String) :
    occurrences name fields ≤ 1 := by
  have count : occurrences name fields = (fields.map Prod.fst).count name := by
    rw [List.count_eq_countP, List.countP_map]
    rfl
  rw [count]
  exact List.nodup_iff_count.mp distinct name

@[simp]
theorem record_object {names : List String} {fields : List (String × Json)}
    (asked : ∀ field ∈ fields, field.1 ∈ names)
    (distinct : (fields.map Prod.fst).Nodup) :
    record names (.object fields) = .ok fields := by
  have kept : fields.filter (fun field => names.contains field.1) =
      fields := by
    rw [List.filter_eq_self]
    intro field member
    rw [List.contains_iff_mem]
    exact asked field member
  rw [record, if_neg]
  · rw [kept]
  · simpa using fun name _ => occurrences_le_one distinct name

/-- The tag is found at any place. -/
theorem tagged_of_single {variants : List String} {tag : String}
    {fields : List (String × Json)} {inside : Bool} (known : tag ∈ variants)
    (isReadable : inside = true ∨ (object fields).readable = true)
    (single : fields.filter (fun field => field.1 = "type") =
      [("type", .text tag)]) :
    tagged variants inside (.object fields) =
      .ok (tag, .object (fields.filter fun field => field.1 ≠ "type")) := by
  rw [tagged, if_neg]
  · simp only [single, variantName, List.contains_iff_mem, known, if_true]
    rfl
  · rcases isReadable with rfl | readable
    · simp
    · simp [readable]

/-- Without a tag, or with several, there is no variant. -/
theorem tagged_of_length_ne {variants : List String} {inside : Bool}
    {fields : List (String × Json)}
    (isReadable : inside = true ∨ (object fields).readable = true)
    (others : (fields.filter fun field => field.1 = "type").length ≠ 1) :
    tagged variants inside (.object fields) = .error .mismatched := by
  rw [tagged, if_neg]
  · split
    · rename_i single
      rw [single] at others
      exact absurd rfl others
    · rfl
  · rcases isReadable with rfl | readable
    · simp
    · simp [readable]

theorem filter_type_eq_nil {fields : List (String × Json)}
    (untagged : "type" ∉ fields.map Prod.fst) :
    fields.filter (fun field => field.1 = "type") = [] := by
  rw [List.filter_eq_nil_iff]
  intro field member
  rw [decide_eq_true_eq]
  intro same
  rw [← same] at untagged
  exact untagged (List.mem_map_of_mem member)

theorem filter_type_eq_self {fields : List (String × Json)}
    (untagged : "type" ∉ fields.map Prod.fst) :
    fields.filter (fun field => field.1 ≠ "type") = fields := by
  rw [List.filter_eq_self]
  intro field member
  rw [decide_eq_true_eq]
  intro same
  rw [← same] at untagged
  exact untagged (List.mem_map_of_mem member)

@[simp]
theorem tagged_object {variants : List String} {tag : String}
    {fields : List (String × Json)} (inside : Bool) (known : tag ∈ variants)
    (untagged : "type" ∉ fields.map Prod.fst)
    (isDiscrete : discreteFields fields = true) :
    tagged variants inside (.object (("type", .text tag) :: fields)) =
      .ok (tag, .object fields) := by
  have isReadable :
      (object (("type", .text tag) :: fields)).readable = true :=
    readable_of_discrete _ isDiscrete
  rw [tagged_of_single known (.inr isReadable)]
  · rw [List.filter_cons_of_neg (by simp), filter_type_eq_self untagged]
  · rw [List.filter_cons_of_pos (by simp), filter_type_eq_nil untagged]

/-! ## Fields -/

section Fields

variable {α : Type} {decode : Json → Except JsonFault α}

@[simp]
theorem required_cons (name other : String) (form : Json)
    (rest : List (String × Json)) :
    required ((other, form) :: rest) name decode =
      if name = other then decode form else required rest name decode := by
  unfold required
  rw [List.lookup_cons]
  by_cases same : name = other
  · simp [same]
  · rw [beq_false_of_ne same, if_neg same]

@[simp]
theorem optional_nil (name : String) (absent : α) :
    optional [] name absent decode = .ok absent := rfl

@[simp]
theorem optional_cons (name other : String) (form : Json)
    (rest : List (String × Json)) (absent : α) :
    optional ((other, form) :: rest) name absent decode =
      if name = other then decode form
      else optional rest name absent decode := by
  unfold optional
  rw [List.lookup_cons]
  by_cases same : name = other
  · simp [same]
  · rw [beq_false_of_ne same, if_neg same]

end Fields

/-! ## Values of fields -/

@[simp]
theorem decodeText_text (value : String) :
    decodeText (.text value) = .ok value := rfl

@[simp]
theorem decodeBoolean_boolean (value : Bool) :
    decodeBoolean (.boolean value) = .ok value := rfl

@[simp]
theorem decodeUInt32_integer (value : UInt32) :
    decodeUInt32 (.integer (.ofUInt32 value)) = .ok value := by
  rw [decodeUInt32, JsonInteger.toUInt32?_ofUInt32]

section Lists

variable {α : Type} {decode : Json → Except JsonFault α} {encode : α → Json}

@[simp]
theorem decodeList_map {values : List α}
    (restored : ∀ value ∈ values, decode (encode value) = .ok value) :
    decodeList decode (.array (values.map encode)) = .ok values := by
  rw [decodeList]
  induction values with
  | nil => rfl
  | cons value rest inductionHypothesis =>
      have others := inductionHypothesis fun other member =>
        restored other (List.mem_cons_of_mem _ member)
      rw [List.map_cons, List.mapM_cons, restored value List.mem_cons_self,
        others]
      rfl

theorem discreteItems_map {values : List α}
    (isDiscrete : ∀ value ∈ values, (encode value).discrete = true) :
    discreteItems (values.map encode) = true := by
  induction values with
  | nil => rfl
  | cons value rest inductionHypothesis =>
      rw [List.map_cons, discreteItems, Bool.and_eq_true]
      constructor
      · exact isDiscrete value List.mem_cons_self
      · exact inductionHypothesis fun other member =>
          isDiscrete other (List.mem_cons_of_mem _ member)

end Lists

end Templating.Json

import Mathlib.Data.List.Nodup
import Templating.Proofs.Json.Record

/-!
# Other spellings of records

A record has many spellings: its fields in any order and further fields among
them, fields left out that have the value they are taken to have then, or, if it
names no variant, an array in place of the object.  Decoding does not tell them
apart.

A spelling may also be faulty: in some object a field that has to be there is
missing or a field is there twice.  Decoding refuses all of these for their
shape, wherever the fault is.
-/

namespace Templating.Json

/-- The variant that an object names. -/
def variantOf (fields : List (String × Json)) : Option String :=
  match fields.lookup "type" with
  | some (.text tag) => some tag
  | _ => none

/-- For the variant of a record and the name of a field, the value that the
field is taken to have when it is left out. -/
abbrev Defaults := Option String → String → Option Json

section Relation

variable (defaults : Defaults)

mutual

/-- The second value is a spelling of the first one; it is sound, or there is a
fault in it. -/
inductive Respelled : Bool → Json → Json → Prop where
  | null : Respelled true .null .null
  | boolean (value : Bool) : Respelled true (.boolean value) (.boolean value)
  | integer (value : JsonInteger) :
      Respelled true (.integer value) (.integer value)
  | text (value : String) : Respelled true (.text value) (.text value)
  | array {sound : Bool} {items others : List Json}
      (each : ItemsRespelled sound items others) :
      Respelled sound (.array items) (.array others)
  | object {sound : Bool} {fields others : List (String × Json)}
      (spelled : ObjectRespelled (variantOf fields) sound fields others) :
      Respelled sound (.object fields) (.object others)
  /-- A record without variants as the array of its fields, of which the last
  ones may be left out. -/
  | listed {sound : Bool} {fields front back : List (String × Json)}
      {items : List Json} (split : fields = front ++ back)
      (untagged : variantOf fields = none)
      (each : ItemsRespelled sound (front.map Prod.snd) items)
      (omitted : ∀ field ∈ back, defaults none field.1 = some field.2) :
      Respelled sound (.object fields) (.array items)

inductive ItemsRespelled : Bool → List Json → List Json → Prop where
  | nil : ItemsRespelled true [] []
  | cons {here later : Bool} {item other : Json} {items others : List Json}
      (first : Respelled here item other)
      (rest : ItemsRespelled later items others) :
      ItemsRespelled (here && later) (item :: items) (other :: others)

/-- The fields of a record of some variant in any order, and further fields that
the record does not have, with values of any discrete kind. -/
inductive ObjectRespelled :
    Option String → Bool → List (String × Json) → List (String × Json) →
    Prop where
  | fields {tag : Option String} {sound : Bool}
      {fields kept extra others : List (String × Json)}
      (each : FieldsRespelled tag sound fields kept)
      (unknown : ∀ field ∈ extra, field.1 ∉ fields.map Prod.fst)
      (isDiscrete : discreteFields extra = true)
      (reordered : others.Perm (kept ++ extra)) :
      ObjectRespelled tag sound fields others

/-- What is kept of the fields of a record of some variant. -/
inductive FieldsRespelled :
    Option String → Bool → List (String × Json) → List (String × Json) →
    Prop where
  | nil {tag : Option String} : FieldsRespelled tag true [] []
  | kept {tag : Option String} {here later : Bool} {name : String}
      {value other : Json} {rest others : List (String × Json)}
      (first : Respelled here value other)
      (each : FieldsRespelled tag later rest others) :
      FieldsRespelled tag (here && later) ((name, value) :: rest)
        ((name, other) :: others)
  | omitted {tag : Option String} {later : Bool} {name : String} {value : Json}
      {rest others : List (String × Json)}
      (isDefault : defaults tag name = some value)
      (each : FieldsRespelled tag later rest others) :
      FieldsRespelled tag later ((name, value) :: rest) others
  /-- A fault: the field has to be there. -/
  | deleted {tag : Option String} {later : Bool} {name : String} {value : Json}
      {rest others : List (String × Json)}
      (isRequired : defaults tag name = none)
      (each : FieldsRespelled tag later rest others) :
      FieldsRespelled tag false ((name, value) :: rest) others
  /-- A fault: the field is there twice. -/
  | repeated {tag : Option String} {here later : Bool} {name : String}
      {value other again : Json} {rest others : List (String × Json)}
      (first : Respelled here value other) (isDiscrete : again.discrete = true)
      (each : FieldsRespelled tag later rest others) :
      FieldsRespelled tag false ((name, value) :: rest)
        ((name, other) :: (name, again) :: others)

end

end Relation

/-- What decoding gives for a spelling of a value. -/
def outcome {α : Type} (sound : Bool) (value : α) : Except JsonFault α :=
  if sound then .ok value else .error .mismatched

/-! ## Plain spellings -/

section Plain

variable (defaults : Defaults)

mutual

/-- A discrete value is a sound spelling of itself. -/
theorem respelled_self (value : Json) (isDiscrete : value.discrete = true) :
    Respelled defaults true value value := by
  match value with
  | .null => exact .null
  | .boolean value => exact .boolean value
  | .integer value => exact .integer value
  | .decimal _ _ => cases isDiscrete
  | .text value => exact .text value
  | .array items => exact .array (itemsRespelled_self items isDiscrete)
  | .object fields =>
      refine .object ?_
      refine .fields (fieldsRespelled_self _ fields isDiscrete) ?_ rfl
        (by rw [List.append_nil])
      intro field isExtra
      cases isExtra
  | .unreadable => cases isDiscrete

theorem itemsRespelled_self (items : List Json)
    (isDiscrete : discreteItems items = true) :
    ItemsRespelled defaults true items items := by
  match items with
  | [] => exact .nil
  | item :: rest =>
      rw [discreteItems, Bool.and_eq_true] at isDiscrete
      exact .cons (respelled_self item isDiscrete.1)
        (itemsRespelled_self rest isDiscrete.2)

theorem fieldsRespelled_self (tag : Option String)
    (fields : List (String × Json)) (isDiscrete : discreteFields fields = true) :
    FieldsRespelled defaults tag true fields fields := by
  match fields with
  | [] => exact .nil
  | (name, value) :: rest =>
      rw [discreteFields, Bool.and_eq_true] at isDiscrete
      exact .kept (respelled_self value isDiscrete.1)
        (fieldsRespelled_self tag rest isDiscrete.2)

end

end Plain

/-! ## Discrete spellings -/

section Discrete

variable {defaults : Defaults}

mutual

/-- The spellings of a discrete value are discrete. -/
theorem Respelled.discrete {sound : Bool} {value form : Json}
    (spelled : Respelled defaults sound value form)
    (isDiscrete : value.discrete = true) : form.discrete = true := by
  match spelled with
  | .null => exact isDiscrete
  | .boolean _ => exact isDiscrete
  | .integer _ => exact isDiscrete
  | .text _ => exact isDiscrete
  | .array each =>
      exact each.discrete isDiscrete
  | .object spelled =>
      exact spelled.discrete isDiscrete
  | .listed split untagged each omitted =>
      subst split
      refine each.discrete ?_
      rw [discreteItems_iff]
      intro item member
      rcases List.mem_map.mp member with ⟨field, isFront, rfl⟩
      exact discreteFields_iff.mp isDiscrete field
        (List.mem_append_left _ isFront)

theorem ItemsRespelled.discrete {sound : Bool} {items others : List Json}
    (each : ItemsRespelled defaults sound items others)
    (isDiscrete : discreteItems items = true) :
    discreteItems others = true := by
  match each with
  | .nil => rfl
  | .cons first rest =>
      rw [discreteItems, Bool.and_eq_true] at isDiscrete ⊢
      exact ⟨first.discrete isDiscrete.1, rest.discrete isDiscrete.2⟩

theorem ObjectRespelled.discrete {tag : Option String} {sound : Bool}
    {fields others : List (String × Json)}
    (spelled : ObjectRespelled defaults tag sound fields others)
    (isDiscrete : discreteFields fields = true) :
    discreteFields others = true := by
  match spelled with
  | .fields each _ discreteExtra reordered =>
      have discreteKept := each.discrete isDiscrete
      rw [discreteFields_iff] at discreteKept discreteExtra ⊢
      intro field member
      rcases List.mem_append.mp (reordered.subset member) with isKept | isExtra
      · exact discreteKept field isKept
      · exact discreteExtra field isExtra

theorem FieldsRespelled.discrete {tag : Option String} {sound : Bool}
    {fields kept : List (String × Json)}
    (each : FieldsRespelled defaults tag sound fields kept)
    (isDiscrete : discreteFields fields = true) :
    discreteFields kept = true := by
  match each with
  | .nil => rfl
  | .kept first each =>
      rw [discreteFields, Bool.and_eq_true] at isDiscrete ⊢
      exact ⟨first.discrete isDiscrete.1, each.discrete isDiscrete.2⟩
  | .omitted _ each =>
      rw [discreteFields, Bool.and_eq_true] at isDiscrete
      exact each.discrete isDiscrete.2
  | .deleted _ each =>
      rw [discreteFields, Bool.and_eq_true] at isDiscrete
      exact each.discrete isDiscrete.2
  | .repeated first discreteAgain each =>
      rw [discreteFields, Bool.and_eq_true] at isDiscrete
      rw [discreteFields, discreteFields, Bool.and_eq_true, Bool.and_eq_true]
      exact ⟨first.discrete isDiscrete.1, discreteAgain,
        each.discrete isDiscrete.2⟩

end

end Discrete

/-! ## Fields of one name -/

/-- Lookups do not depend on the order of fields with different names. -/
theorem lookup_of_perm {first second : List (String × Json)}
    (reordered : first.Perm second) (distinct : (first.map Prod.fst).Nodup)
    (name : String) : first.lookup name = second.lookup name := by
  induction reordered with
  | nil => rfl
  | cons field _ inductionHypothesis =>
      rw [List.map_cons, List.nodup_cons] at distinct
      rw [List.lookup_cons, List.lookup_cons,
        inductionHypothesis distinct.2]
  | swap field other rest =>
      simp only [List.map_cons, List.nodup_cons, List.mem_cons, not_or]
        at distinct
      rw [List.lookup_cons, List.lookup_cons, List.lookup_cons,
        List.lookup_cons]
      by_cases isOther : name = other.1
      · by_cases isField : name = field.1
        · exact absurd (isOther.symm.trans isField) distinct.1.1
        · rw [beq_false_of_ne isField]
      · rw [beq_false_of_ne isOther]
  | trans firstStep _ inductionHypothesis secondInduction =>
      rw [inductionHypothesis distinct]
      exact secondInduction ((firstStep.map Prod.fst).nodup_iff.mp distinct)

theorem lookup_eq_none {fields : List (String × Json)} {name : String}
    (absent : name ∉ fields.map Prod.fst) : fields.lookup name = none := by
  rw [List.lookup_eq_none_iff]
  intro field member
  rw [bne_iff_ne]
  rintro rfl
  exact absent (List.mem_map_of_mem member)

theorem occurrences_eq_zero {fields : List (String × Json)} {name : String}
    (absent : name ∉ fields.map Prod.fst) : occurrences name fields = 0 := by
  rw [occurrences, List.countP_eq_zero]
  intro field member
  rw [decide_eq_true_eq]
  rintro rfl
  exact absent (List.mem_map_of_mem member)

/-! ## Fields that are found -/

section Found

variable (defaults : Defaults)

/-- What looking for a field of a record gives: a spelling of its value, with
fewer levels than the record has, or nothing. -/
inductive Found (tag : Option String) (levels : Nat) (name : String)
    (value : Json) : Bool → Option Json → Prop where
  | kept {sound : Bool} {form : Json}
      (spelled : Respelled defaults sound value form)
      (below : form.levels < levels) :
      Found tag levels name value sound (some form)
  | omitted (isDefault : defaults tag name = some value) :
      Found tag levels name value true none
  | deleted (isRequired : defaults tag name = none) :
      Found tag levels name value false none

/-- What looking for each field of a record among some fields gives. -/
def AllFound (tag : Option String) (levels : Nat)
    (chosen : List (String × Json)) : Bool → List (String × Json) → Prop
  | sound, [] => sound = true
  | sound, (name, value) :: rest =>
      ∃ here later,
        Found defaults tag levels name value here (chosen.lookup name) ∧
          AllFound tag levels chosen later rest ∧ sound = (here && later)

/-- The fields of a record can be found in a value, or one of them is there
twice. -/
def Offers (tag : Option String) (sound : Bool)
    (fields : List (String × Json)) (form : Json) : Prop :=
  (sound = false ∧
      record (fields.map Prod.fst) form = .error .mismatched) ∨
    ∃ chosen, record (fields.map Prod.fst) form = .ok chosen ∧
      AllFound defaults tag form.levels chosen sound fields

end Found

variable {defaults : Defaults} {tag : Option String} {sound : Bool}
  {levels : Nat} {fields : List (String × Json)}

theorem AllFound.congr {chosen others : List (String × Json)}
    (found : AllFound defaults tag levels chosen sound fields)
    (same : ∀ name ∈ fields.map Prod.fst,
      others.lookup name = chosen.lookup name) :
    AllFound defaults tag levels others sound fields := by
  induction fields generalizing sound with
  | nil => exact found
  | cons field rest inductionHypothesis =>
      rcases found with ⟨here, later, first, each, rfl⟩
      rw [List.map_cons, List.forall_mem_cons] at same
      refine ⟨here, later, ?_, inductionHypothesis each same.2, rfl⟩
      rw [same.1]
      exact first

/-! ## Objects -/

theorem FieldsRespelled.names_subset {kept : List (String × Json)}
    (each : FieldsRespelled defaults tag sound fields kept) :
    kept.map Prod.fst ⊆ fields.map Prod.fst := by
  induction fields generalizing sound kept with
  | nil =>
      cases each
      exact List.Subset.refl _
  | cons field rest inductionHypothesis =>
      cases each with
      | kept first each =>
          exact List.cons_subset_cons _ (inductionHypothesis each)
      | omitted isDefault each =>
          exact List.subset_cons_of_subset _ (inductionHypothesis each)
      | deleted isRequired each =>
          exact List.subset_cons_of_subset _ (inductionHypothesis each)
      | repeated first isDiscrete each =>
          exact List.cons_subset.mpr ⟨List.mem_cons_self,
            List.cons_subset_cons _ (inductionHypothesis each)⟩

/-- What is kept of the fields can be looked up, unless one is there twice. -/
theorem FieldsRespelled.found {kept : List (String × Json)}
    (each : FieldsRespelled defaults tag sound fields kept)
    (distinct : (fields.map Prod.fst).Nodup)
    (below : ∀ field ∈ kept, field.2.levels < levels) :
    (sound = false ∧
        ∃ name ∈ fields.map Prod.fst, 1 < occurrences name kept) ∨
      ((kept.map Prod.fst).Nodup ∧
        AllFound defaults tag levels kept sound fields) := by
  induction fields generalizing sound kept with
  | nil =>
      cases each
      exact .inr ⟨List.nodup_nil, rfl⟩
  | cons field rest inductionHypothesis =>
      rw [List.map_cons, List.nodup_cons] at distinct
      cases each with
      | kept first each =>
          rename_i here later name value other others
          rw [List.forall_mem_cons] at below
          rcases inductionHypothesis each distinct.2 below.2 with
            ⟨rfl, twice, member, count⟩ | ⟨distinctKept, found⟩
          · refine .inl ⟨Bool.and_false _, twice,
              List.mem_cons_of_mem _ member, ?_⟩
            exact Nat.lt_of_lt_of_le count
              ((List.sublist_cons_self _ _).countP_le)
          · have absent : name ∉ others.map Prod.fst :=
              fun member => distinct.1 (each.names_subset member)
            refine .inr ⟨List.nodup_cons.mpr ⟨absent, distinctKept⟩, here, later,
              ?_, found.congr ?_, rfl⟩
            · rw [List.lookup_cons_self]
              exact .kept first below.1
            · intro other member
              have differs : other ≠ name := by
                rintro rfl
                exact distinct.1 member
              rw [List.lookup_cons, beq_false_of_ne differs]
      | omitted isDefault each =>
          rename_i name value
          rcases inductionHypothesis each distinct.2 below with
            ⟨faulty, twice, member, count⟩ | ⟨distinctKept, found⟩
          · exact .inl ⟨faulty, twice, List.mem_cons_of_mem _ member, count⟩
          · refine .inr ⟨distinctKept, true, sound, ?_, found, rfl⟩
            rw [lookup_eq_none fun member =>
              distinct.1 (each.names_subset member)]
            exact .omitted isDefault
      | deleted isRequired each =>
          rename_i later name value
          rcases inductionHypothesis each distinct.2 below with
            ⟨_, twice, member, count⟩ | ⟨distinctKept, found⟩
          · exact .inl ⟨rfl, twice, List.mem_cons_of_mem _ member, count⟩
          · refine .inr ⟨distinctKept, false, later, ?_, found, rfl⟩
            rw [lookup_eq_none fun member =>
              distinct.1 (each.names_subset member)]
            exact .deleted isRequired
      | repeated first isDiscrete each =>
          refine .inl ⟨rfl, _, List.mem_cons_self, ?_⟩
          simp [occurrences]

theorem ObjectRespelled.offers {others : List (String × Json)}
    (spelled : ObjectRespelled defaults tag sound fields others)
    (distinct : (fields.map Prod.fst).Nodup) :
    Offers defaults tag sound fields (.object others) := by
  cases spelled with
  | fields each unknown isDiscrete reordered =>
      rename_i kept extra
      have below : ∀ field ∈ kept, field.2.levels < (object others).levels := by
        intro field member
        exact levels_lt_of_mem_fields
          (reordered.symm.subset (List.mem_append_left _ member))
      have count : ∀ name ∈ fields.map Prod.fst,
          occurrences name others = occurrences name kept := by
        intro name member
        have absent : name ∉ extra.map Prod.fst := by
          intro isExtra
          rcases List.mem_map.mp isExtra with ⟨field, inExtra, rfl⟩
          exact unknown field inExtra member
        have total : occurrences name others =
            occurrences name kept + occurrences name extra := by
          rw [occurrences, reordered.countP_eq, List.countP_append]
          rfl
        rw [total, occurrences_eq_zero absent, Nat.add_zero]
      rcases each.found distinct below with
        ⟨faulty, name, member, twice⟩ | ⟨distinctKept, found⟩
      · refine .inl ⟨faulty, if_pos ?_⟩
        rw [List.any_eq_true]
        refine ⟨name, member, ?_⟩
        rw [decide_eq_true_eq, count name member]
        exact twice
      · refine .inr ⟨_, if_neg ?_, found.congr ?_⟩
        · rw [List.any_eq_true]
          rintro ⟨name, member, twice⟩
          rw [decide_eq_true_eq, count name member] at twice
          have once := occurrences_le_one distinctKept name
          omega
        · -- Nothing but what is kept has a name that is asked for.
          have asked : (others.filter fun field =>
              (fields.map Prod.fst).contains field.1).Perm kept := by
            refine (reordered.filter _).trans ?_
            have whole : kept.filter (fun field =>
                (fields.map Prod.fst).contains field.1) = kept := by
              rw [List.filter_eq_self]
              intro field member
              rw [List.contains_iff_mem]
              exact each.names_subset (List.mem_map_of_mem member)
            have nothing : extra.filter (fun field =>
                (fields.map Prod.fst).contains field.1) = [] := by
              rw [List.filter_eq_nil_iff]
              intro field member
              rw [List.contains_iff_mem]
              exact unknown field member
            rw [List.filter_append, whole, nothing, List.append_nil]
          intro name _
          exact (lookup_of_perm asked.symm distinctKept name).symm

/-! ## Arrays -/

theorem ItemsRespelled.length_eq {items others : List Json}
    (each : ItemsRespelled defaults sound items others) :
    others.length = items.length := by
  induction items generalizing sound others with
  | nil =>
      cases each
      rfl
  | cons item rest inductionHypothesis =>
      cases each with
      | cons first each =>
          rw [List.length_cons, List.length_cons, inductionHypothesis each]

theorem allFound_nil
    (omitted : ∀ field ∈ fields, defaults tag field.1 = some field.2) :
    AllFound defaults tag levels [] true fields := by
  induction fields with
  | nil => rfl
  | cons field rest inductionHypothesis =>
      rw [List.forall_mem_cons] at omitted
      exact ⟨true, true, .omitted omitted.1, inductionHypothesis omitted.2, rfl⟩

/-- The fields of a record are found in the array of the first ones, if the
others may be left out. -/
theorem allFound_zip {front back : List (String × Json)} {items : List Json}
    (each : ItemsRespelled defaults sound (front.map Prod.snd) items)
    (omitted : ∀ field ∈ back, defaults none field.1 = some field.2)
    (distinct : ((front ++ back).map Prod.fst).Nodup)
    (below : ∀ item ∈ items, item.levels < levels) :
    AllFound defaults none levels (((front ++ back).map Prod.fst).zip items)
      sound (front ++ back) := by
  induction front generalizing sound items with
  | nil =>
      cases each
      rw [List.zip_nil_right]
      exact allFound_nil omitted
  | cons field rest inductionHypothesis =>
      rw [List.map_cons] at each
      cases each with
      | cons first each =>
          rw [List.forall_mem_cons] at below
          rw [List.cons_append, List.map_cons, List.nodup_cons] at distinct
          rw [List.cons_append, List.map_cons, List.zip_cons_cons]
          refine ⟨_, _, ?_, (inductionHypothesis each distinct.2 below.2).congr ?_,
            rfl⟩
          · rw [List.lookup_cons_self]
            exact .kept first below.1
          · intro name member
            have differs : name ≠ field.1 := by
              rintro rfl
              exact distinct.1 member
            rw [List.lookup_cons, beq_false_of_ne differs]

theorem Respelled.offers {form : Json}
    (spelled : Respelled defaults sound (.object fields) form)
    (untagged : variantOf fields = none)
    (distinct : (fields.map Prod.fst).Nodup) :
    Offers defaults none sound fields form := by
  cases spelled with
  | object spelled =>
      rw [untagged] at spelled
      exact spelled.offers distinct
  | listed split unnamed each omitted =>
      rename_i front back items
      subst split
      have length : items.length ≤ ((front ++ back).map Prod.fst).length := by
        rw [each.length_eq, List.length_map, List.length_map,
          List.length_append]
        exact Nat.le_add_right _ _
      exact .inr ⟨_, if_pos length, allFound_zip each omitted distinct
        fun _ member => levels_lt_of_mem_items member⟩

/-! ## Decoding -/

section Decoding

variable {α β : Type}

/-- Steps of decoding in a row: the fault of one of them is the fault of all. -/
theorem outcome_bind {here later : Bool} {value : α} {result : β}
    {next : α → Except JsonFault β} (ok : next value = outcome later result) :
    (outcome here value >>= next) = outcome (here && later) result := by
  cases here
  · rfl
  · exact ok

/-- A decoder does not tell spellings with fewer than some levels apart. -/
def DecodesBelow (defaults : Defaults) (levels : Nat)
    (decode : Json → Except JsonFault α) (encoded : Json) (value : α) : Prop :=
  ∀ ⦃sound : Bool⦄ ⦃form : Json⦄, Respelled defaults sound encoded form →
    form.levels < levels → decode form = outcome sound value

theorem DecodesBelow.mono {fewer : Nat} {decode : Json → Except JsonFault α}
    {encoded : Json} {value : α}
    (decodes : DecodesBelow defaults levels decode encoded value)
    (le : fewer ≤ levels) : DecodesBelow defaults fewer decode encoded value :=
  fun _ _ spelled below => decodes spelled (Nat.lt_of_lt_of_le below le)

theorem decodesBelow_text (value : String) :
    DecodesBelow defaults levels decodeText (.text value) value := by
  intro sound form spelled _
  cases spelled
  rfl

theorem decodesBelow_boolean (value : Bool) :
    DecodesBelow defaults levels decodeBoolean (.boolean value) value := by
  intro sound form spelled _
  cases spelled
  rfl

theorem decodesBelow_integer (value : UInt32) :
    DecodesBelow defaults levels decodeUInt32 (.integer (.ofUInt32 value))
      value := by
  intro sound form spelled _
  cases spelled
  exact decodeUInt32_integer value

theorem decodesBelow_nil {decode : Json → Except JsonFault α} :
    DecodesBelow defaults levels (decodeList decode) (.array []) [] := by
  intro sound form spelled _
  cases spelled with
  | array each =>
      cases each
      rfl

theorem decodesBelow_cons {decode : Json → Except JsonFault α} {item : Json}
    {items : List Json} {value : α} {values : List α}
    (first : DecodesBelow defaults (levels - 1) decode item value)
    (rest : DecodesBelow defaults levels (decodeList decode) (.array items)
      values) :
    DecodesBelow defaults levels (decodeList decode) (.array (item :: items))
      (value :: values) := by
  intro sound form spelled below
  cases spelled with
  | array each =>
      cases each with
      | cons here each =>
          rename_i earlier later other others
          rw [Json.levels, levelsItems] at below
          have decoded : decode other = outcome earlier value :=
            first here (by omega)
          have othersDecoded : others.mapM decode = outcome later values := by
            refine rest (.array each) ?_
            rw [Json.levels]
            omega
          rw [decodeList, List.mapM_cons, decoded]
          refine outcome_bind ?_
          rw [othersDecoded]
          cases later <;> rfl

theorem decodesBelow_list {decode : Json → Except JsonFault α}
    {encode : α → Json} {values : List α}
    (each : ∀ value ∈ values,
      DecodesBelow defaults (levels - 1) decode (encode value) value) :
    DecodesBelow defaults levels (decodeList decode)
      (.array (values.map encode)) values := by
  induction values with
  | nil => exact decodesBelow_nil
  | cons value rest inductionHypothesis =>
      rw [List.forall_mem_cons] at each
      exact decodesBelow_cons each.1 (inductionHypothesis each.2)

theorem Offers.bind {form : Json} {value : α}
    {next : List (String × Json) → Except JsonFault α}
    (offers : Offers defaults tag sound fields form)
    (ok : ∀ chosen, AllFound defaults tag form.levels chosen sound fields →
      next chosen = outcome sound value) :
    (record (fields.map Prod.fst) form >>= next) = outcome sound value := by
  rcases offers with ⟨rfl, failed⟩ | ⟨chosen, offered, found⟩
  · rw [failed]
    rfl
  · rw [offered]
    exact ok chosen found

section Field

variable {name : String} {encoded : Json} {value : α} {result : β}
  {here later : Bool} {chosen : List (String × Json)}
  {decode : Json → Except JsonFault α} {next : α → Except JsonFault β}

theorem Found.required
    (found : Found defaults tag levels name encoded here (chosen.lookup name))
    (isRequired : defaults tag name = none)
    (decodes : DecodesBelow defaults levels decode encoded value)
    (ok : next value = outcome later result) :
    (Json.required chosen name decode >>= next) =
      outcome (here && later) result := by
  rw [← outcome_bind ok]
  congr 1
  unfold Json.required
  cases lookup : chosen.lookup name with
  | some form =>
      rw [lookup] at found
      cases found with
      | kept spelled below => exact decodes spelled below
  | none =>
      rw [lookup] at found
      cases found with
      | omitted isDefault => cases isRequired.symm.trans isDefault
      | deleted _ => rfl

theorem Found.optional {absent : α} {default : Json}
    (found : Found defaults tag levels name encoded here (chosen.lookup name))
    (isOptional : defaults tag name = some default)
    (isAbsent : encoded = default → value = absent)
    (decodes : DecodesBelow defaults levels decode encoded value)
    (ok : next value = outcome later result) :
    (Json.optional chosen name absent decode >>= next) =
      outcome (here && later) result := by
  rw [← outcome_bind ok]
  congr 1
  unfold Json.optional
  cases lookup : chosen.lookup name with
  | some form =>
      rw [lookup] at found
      cases found with
      | kept spelled below => exact decodes spelled below
  | none =>
      rw [lookup] at found
      cases found with
      | omitted isDefault =>
          rw [isAbsent (Option.some.inj (isDefault.symm.trans isOptional))]
          rfl
      | deleted isRequired => cases isRequired.symm.trans isOptional

end Field

/-! ## Short records -/

section Short

variable {form : Json} {result : β}

theorem Offers.single {name : String} {encoded : Json} {value : α}
    {decode : Json → Except JsonFault α} {next : α → Except JsonFault β}
    (offers : Offers defaults tag sound [(name, encoded)] form)
    (isRequired : defaults tag name = none)
    (decodes : DecodesBelow defaults form.levels decode encoded value)
    (ok : next value = .ok result) :
    (record [name] form >>= fun chosen =>
        Json.required chosen name decode >>= next) =
      outcome sound result := by
  refine offers.bind ?_
  rintro chosen ⟨_, _, found, rfl, rfl⟩
  exact found.required isRequired decodes ok

theorem Offers.pair {γ : Type} {name other : String} {encoded another : Json}
    {value : α} {companion : γ} {decode : Json → Except JsonFault α}
    {decodeOther : Json → Except JsonFault γ}
    {next : α → γ → Except JsonFault β}
    (offers : Offers defaults tag sound [(name, encoded), (other, another)] form)
    (isRequired : defaults tag name = none)
    (decodes : DecodesBelow defaults form.levels decode encoded value)
    (isRequiredToo : defaults tag other = none)
    (decodesToo : DecodesBelow defaults form.levels decodeOther another companion)
    (ok : next value companion = .ok result) :
    (record [name, other] form >>= fun chosen =>
        Json.required chosen name decode >>= fun value =>
          Json.required chosen other decodeOther >>= next value) =
      outcome sound result := by
  refine offers.bind ?_
  rintro chosen ⟨_, _, first, ⟨_, _, second, rfl, rfl⟩, rfl⟩
  refine first.required isRequired decodes ?_
  exact second.required isRequiredToo decodesToo ok

end Short

/-! ## Variants -/

theorem variantOf_cons (tag : String) (fields : List (String × Json)) :
    variantOf (("type", .text tag) :: fields) = some tag := by
  rw [variantOf, List.lookup_cons_self]

/-- The tag is found at any place and the fields of the variant are offered
behind it. -/
theorem tagged_bind {tag : String} {variants : List String} {inside : Bool}
    {form : Json} {value : α} {next : String × Json → Except JsonFault α}
    (spelled : Respelled defaults sound
      (.object (("type", .text tag) :: fields)) form)
    (isDiscrete : (object (("type", .text tag) :: fields)).discrete = true)
    (isRequired : defaults (some tag) "type" = none)
    (known : tag ∈ variants) (distinct : ("type" :: fields.map Prod.fst).Nodup)
    (ok : ∀ {sound : Bool} {content : Json},
      Offers defaults (some tag) sound fields content →
      content.levels ≤ form.levels → next (tag, content) = outcome sound value) :
    (tagged variants inside form >>= next) = outcome sound value := by
  have isReadable : inside = true ∨ form.readable = true :=
    .inr (readable_of_discrete form (spelled.discrete isDiscrete))
  rw [List.nodup_cons] at distinct
  cases spelled with
  | listed split unnamed each omitted =>
      rw [variantOf_cons] at unnamed
      cases unnamed
  | object spelled =>
      rw [variantOf_cons] at spelled
      cases spelled with
      | fields each unknown discreteExtra reordered =>
          rename_i others kept extra
          have notExtra : "type" ∉ extra.map Prod.fst := by
            intro member
            rcases List.mem_map.mp member with ⟨field, isExtra, same⟩
            refine unknown field isExtra ?_
            rw [same]
            exact List.mem_cons_self
          have tags : (others.filter fun field => field.1 = "type").Perm
              (kept.filter fun field => field.1 = "type") := by
            have both := reordered.filter fun field => field.1 = "type"
            rwa [List.filter_append, filter_type_eq_nil notExtra,
              List.append_nil] at both
          cases each with
          | kept first each =>
              cases first
              rename_i later kept
              have notKept : "type" ∉ kept.map Prod.fst :=
                fun member => distinct.1 (each.names_subset member)
              rw [List.filter_cons_of_pos (by simp), filter_type_eq_nil notKept,
                List.perm_singleton] at tags
              have content : (others.filter fun field => field.1 ≠ "type").Perm
                  (kept ++ extra) := by
                have both := reordered.filter fun field => field.1 ≠ "type"
                rwa [List.filter_append, filter_type_eq_self notExtra,
                  List.filter_cons_of_neg (by simp),
                  filter_type_eq_self notKept] at both
              have spelled : ObjectRespelled defaults (some tag) later fields
                  (others.filter fun field => field.1 ≠ "type") := by
                refine .fields each ?_ discreteExtra content
                intro field isExtra member
                exact unknown field isExtra (List.mem_cons_of_mem _ member)
              rw [tagged_of_single known isReadable tags]
              exact ok (spelled.offers distinct.2) (levels_filter_le others _)
          | omitted isDefault each => cases isRequired.symm.trans isDefault
          | deleted _ each =>
              have absent : "type" ∉ kept.map Prod.fst :=
                fun member => distinct.1 (each.names_subset member)
              rw [filter_type_eq_nil absent] at tags
              rw [tagged_of_length_ne isReadable (by simp [tags.length_eq])]
              rfl
          | repeated first _ each =>
              rw [List.filter_cons_of_pos (by simp),
                List.filter_cons_of_pos (by simp)] at tags
              rw [tagged_of_length_ne isReadable (by simp [tags.length_eq])]
              rfl

end Decoding

end Templating.Json

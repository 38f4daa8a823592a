import Templating.Form.File
import Templating.Form.Settings
import Templating.Proofs.Form.Node

/-!
# Levels of decoded values

A list that may be left out is printed as an empty one.  So the form of a value
may have more levels than the form it was decoded from, but only one more: the
part where the list is added is as deep as its record already.
-/

namespace Templating

namespace Json

variable {α : Type}

@[simp]
theorem levels_text (value : String) : (text value).levels = 0 := rfl

@[simp]
theorem levels_boolean (value : Bool) : (boolean value).levels = 0 := rfl

/-- The forms of decoded values have at most one level more than what they are
decoded from. -/
def AddsOneLevel (decode : Json → Except JsonFault α) (encode : α → Json) :
    Prop :=
  ∀ ⦃form : Json⦄ ⦃value : α⦄, decode form = .ok value →
    (encode value).levels ≤ form.levels + 1

theorem addsOneLevel_of_le_one {decode : Json → Except JsonFault α}
    {encode : α → Json} (flat : ∀ value, (encode value).levels ≤ 1) :
    AddsOneLevel decode encode :=
  fun form value _ => Nat.le_trans (flat value) (Nat.le_add_left 1 form.levels)

/-! ## Lists -/

theorem levels_array_le {items : List Json} {levels : Nat}
    (each : ∀ item ∈ items, item.levels ≤ levels) :
    (array items).levels ≤ levels + 1 := by
  refine Nat.succ_le_succ ?_
  induction items with
  | nil => exact Nat.zero_le _
  | cons item rest inductionHypothesis =>
      rw [List.forall_mem_cons] at each
      exact Nat.max_le.mpr ⟨each.1, inductionHypothesis each.2⟩

theorem levels_object_le {fields : List (String × Json)} {levels : Nat}
    (each : ∀ field ∈ fields, field.2.levels ≤ levels) :
    (object fields).levels ≤ levels + 1 := by
  refine Nat.succ_le_succ ?_
  induction fields with
  | nil => exact Nat.zero_le _
  | cons field rest inductionHypothesis =>
      rw [List.forall_mem_cons] at each
      exact Nat.max_le.mpr ⟨each.1, inductionHypothesis each.2⟩

/-- Each value of a list comes from an item. -/
theorem mem_of_mapM_eq_ok {decode : Json → Except JsonFault α}
    {items : List Json} {values : List α} (ok : items.mapM decode = .ok values) :
    ∀ value ∈ values, ∃ item ∈ items, decode item = .ok value := by
  induction items generalizing values with
  | nil =>
      cases ok
      exact fun value member => nomatch member
  | cons item rest inductionHypothesis =>
      rw [List.mapM_cons] at ok
      rcases bind_eq_ok.mp ok with ⟨first, here, ok⟩
      rcases bind_eq_ok.mp ok with ⟨others, later, ok⟩
      cases ok
      rw [List.forall_mem_cons]
      refine ⟨⟨item, List.mem_cons_self, here⟩, ?_⟩
      intro value member
      rcases inductionHypothesis later value member with ⟨other, isItem, decoded⟩
      exact ⟨other, List.mem_cons_of_mem _ isItem, decoded⟩

theorem AddsOneLevel.list {decode : Json → Except JsonFault α}
    {encode : α → Json} (adds : AddsOneLevel decode encode) :
    AddsOneLevel (decodeList decode) fun values =>
      .array (values.map encode) := by
  intro form values ok
  cases form with
  | array items =>
      refine levels_array_le ?_
      intro item member
      rcases List.mem_map.mp member with ⟨value, isValue, rfl⟩
      rcases mem_of_mapM_eq_ok ok value isValue with ⟨item, isItem, decoded⟩
      exact Nat.le_trans (adds decoded) (levels_lt_of_mem_items isItem)
  | _ => cases ok

theorem AddsOneLevel.option {decode : Json → Except JsonFault α}
    {encode : α → Json} {encodeOption : Option α → Json}
    (adds : AddsOneLevel decode encode)
    (onNone : encodeOption none = .null)
    (onSome : ∀ value, encodeOption (some value) = encode value) :
    AddsOneLevel (decodeOption decode) encodeOption := by
  intro form value? ok
  unfold decodeOption at ok
  split at ok
  · cases ok
    rw [onNone]
    exact Nat.zero_le _
  · cases decoded : decode form with
    | error fault =>
        rw [decoded] at ok
        cases ok
    | ok value =>
        rw [decoded] at ok
        cases ok
        rw [onSome]
        exact adds decoded

/-! ## Records -/

/-- The fields are parts of a form: each has fewer levels. -/
structure PartsOf (form : Json) (chosen : List (String × Json)) : Prop where
  positive : 0 < form.levels
  below : ∀ field ∈ chosen, field.2.levels < form.levels

theorem record_partsOf {names : List String} {form : Json}
    {chosen : List (String × Json)} (ok : record names form = .ok chosen) :
    PartsOf form chosen := by
  cases form with
  | object fields =>
      rw [record] at ok
      split at ok
      · cases ok
      · cases ok
        refine ⟨Nat.zero_lt_succ _, ?_⟩
        intro field member
        exact levels_lt_of_mem_fields (List.mem_filter.mp member).1
  | array items =>
      rw [record] at ok
      split at ok
      · cases ok
        refine ⟨Nat.zero_lt_succ _, ?_⟩
        intro field member
        exact levels_lt_of_mem_items (List.of_mem_zip member).2
      · cases ok
  | _ => cases ok

theorem mem_of_lookup {fields : List (String × Json)} {name : String}
    {form : Json} (found : fields.lookup name = some form) :
    (name, form) ∈ fields := by
  rcases List.lookup_eq_some_iff.mp found with ⟨before, behind, rfl, _⟩
  exact List.mem_append_right _ List.mem_cons_self

section Fields

variable {form : Json} {chosen : List (String × Json)} {name : String}
  {decode : Json → Except JsonFault α} {encode : α → Json} {value : α}

theorem PartsOf.required (parts : PartsOf form chosen)
    (adds : AddsOneLevel decode encode)
    (ok : Json.required chosen name decode = .ok value) :
    (encode value).levels ≤ form.levels := by
  unfold Json.required at ok
  split at ok
  case h_1 item found =>
    exact Nat.le_trans (adds ok) (parts.below _ (mem_of_lookup found))
  case h_2 => cases ok

theorem PartsOf.optional {absent : α} (parts : PartsOf form chosen)
    (adds : AddsOneLevel decode encode)
    (ok : Json.optional chosen name absent decode = .ok value)
    (flat : (encode absent).levels ≤ 1) :
    (encode value).levels ≤ form.levels := by
  unfold Json.optional at ok
  split at ok
  case h_1 item found =>
    exact Nat.le_trans (adds ok) (parts.below _ (mem_of_lookup found))
  case h_2 =>
    cases ok
    exact Nat.le_trans flat parts.positive

end Fields

/-- Without its tag a record has no more levels. -/
theorem levels_content_le {variants : List String} {inside : Bool}
    {form : Json} {found : String × Json}
    (ok : tagged variants inside form = .ok found) :
    found.2.levels ≤ form.levels := by
  unfold tagged at ok
  split at ok
  · cases ok
  · split at ok
    · split at ok
      · rcases bind_eq_ok.mp ok with ⟨name, named, ok⟩
        cases ok
        exact levels_filter_le _ _
      · cases ok
    · rcases bind_eq_ok.mp ok with ⟨name, named, ok⟩
      cases ok
      exact Nat.succ_le_succ (Nat.le_max_right _ _)
    · cases ok

/-- What comes of a record behind its tag is at most one level deeper. -/
theorem addsOneLevel_tagged {variants : List String} {inside : Bool}
    {next : String × Json → Except JsonFault α} {encode : α → Json}
    (each : ∀ found value, next found = .ok value →
      (encode value).levels ≤ found.2.levels + 1) :
    AddsOneLevel (fun form => tagged variants inside form >>= next) encode := by
  intro form value ok
  rcases bind_eq_ok.mp ok with ⟨found, isTagged, ok⟩
  exact Nat.le_trans (each found value ok)
    (Nat.succ_le_succ (levels_content_le isTagged))

end Json

open Json

/-! ## Positions and source maps -/

namespace Position

theorem addsOneLevel : AddsOneLevel decode encode :=
  addsOneLevel_of_le_one fun _ => Nat.le_refl 1

end Position

namespace Span

theorem addsOneLevel : AddsOneLevel decode encode := by
  intro form span ok
  rcases bind_eq_ok.mp ok with ⟨chosen, isRecord, ok⟩
  rcases bind_eq_ok.mp ok with ⟨start, started, ok⟩
  rcases bind_eq_ok.mp ok with ⟨stop, stopped, ok⟩
  cases ok
  have parts := record_partsOf isRecord
  have first := parts.required Position.addsOneLevel started
  have second := parts.required Position.addsOneLevel stopped
  exact levels_object_le (by simp [first, second])

end Span

namespace Expression

theorem addsOneLevel : AddsOneLevel decode encode := by
  intro form expression ok
  rcases bind_eq_ok.mp ok with ⟨chosen, isRecord, ok⟩
  rcases bind_eq_ok.mp ok with ⟨value, valued, ok⟩
  rcases bind_eq_ok.mp ok with ⟨span, spanned, ok⟩
  cases ok
  have second := (record_partsOf isRecord).required Span.addsOneLevel spanned
  exact levels_object_le (by simp [second])

end Expression

namespace Mapping

theorem addsOneLevel : AddsOneLevel decode encode := by
  intro form mapping ok
  rcases bind_eq_ok.mp ok with ⟨chosen, isRecord, ok⟩
  rcases bind_eq_ok.mp ok with ⟨source, first, ok⟩
  rcases bind_eq_ok.mp ok with ⟨generated, second, ok⟩
  cases ok
  have parts := record_partsOf isRecord
  have first := parts.required Span.addsOneLevel first
  have second := parts.required Span.addsOneLevel second
  exact levels_object_le (by simp [first, second])

end Mapping

namespace SourceMap

theorem addsOneLevel : AddsOneLevel decode encode := by
  intro form map ok
  rcases bind_eq_ok.mp ok with ⟨chosen, isRecord, ok⟩
  rcases bind_eq_ok.mp ok with ⟨mappings, listed, ok⟩
  cases ok
  have parts := record_partsOf isRecord
  have first := parts.required Mapping.addsOneLevel.list listed
  exact levels_object_le (by simpa using first)

/-- Every source map is five levels deep. -/
theorem levels_encode_le (map : SourceMap) : map.encode.levels ≤ 5 := by
  refine levels_object_le ?_
  rw [List.forall_mem_singleton]
  refine levels_array_le ?_
  intro item member
  rcases List.mem_map.mp member with ⟨mapping, _, rfl⟩
  exact Nat.le_refl 3

end SourceMap

namespace Settings

theorem addsOneLevel : AddsOneLevel decode encode := by
  refine addsOneLevel_of_le_one ?_
  rintro ⟨_ | version, runtimePath⟩
  · exact Nat.le_refl 1
  · exact Nat.le_refl 1

end Settings

/-! ## Attributes and style properties -/

namespace Attribute

theorem addsOneLevel (inside : Bool) : AddsOneLevel (decode inside) encode := by
  refine addsOneLevel_tagged ?_
  intro found item ok
  split at ok
  · simp only [bind_eq_ok] at ok
    rcases ok with ⟨chosen, isRecord, name, named, value, valued, ⟨⟩⟩
    exact Nat.le_add_left 1 _
  · simp only [bind_eq_ok] at ok
    rcases ok with ⟨chosen, isRecord, name, named, ⟨⟩⟩
    exact Nat.le_add_left 1 _
  · simp only [bind_eq_ok] at ok
    rcases ok with ⟨chosen, isRecord, name, named, value, valued, ⟨⟩⟩
    have computed :=
      (record_partsOf isRecord).required Expression.addsOneLevel valued
    exact levels_object_le (by simp [computed])
  · simp only [bind_eq_ok] at ok
    rcases ok with ⟨chosen, isRecord, name, named, condition, tested, ⟨⟩⟩
    have computed :=
      (record_partsOf isRecord).required Expression.addsOneLevel tested
    exact levels_object_le (by simp [computed])

end Attribute

namespace StyleProperty

theorem addsOneLevel (inside : Bool) : AddsOneLevel (decode inside) encode := by
  refine addsOneLevel_tagged ?_
  intro found property ok
  split at ok
  · simp only [bind_eq_ok] at ok
    rcases ok with ⟨chosen, isRecord, name, named, value, valued, ⟨⟩⟩
    exact Nat.le_add_left 1 _
  · simp only [bind_eq_ok] at ok
    rcases ok with ⟨chosen, isRecord, name, named, value, valued, ⟨⟩⟩
    have computed :=
      (record_partsOf isRecord).required Expression.addsOneLevel valued
    exact levels_object_le (by simp [computed])

end StyleProperty

/-! ## Nodes -/

namespace Node

theorem encodeCases_eq_map (cases : List (Expression × List Node)) :
    encodeCases cases = cases.map fun branch => .object
      [("expression", branch.1.encode),
        ("children", .array (branch.2.map encode))] := by
  induction cases with
  | nil => rw [encodeCases]; rfl
  | cons branch rest inductionHypothesis =>
      rw [encodeCases, inductionHypothesis, encodeAll_eq_map, List.map_cons]

section Inside

variable {decodeNode : Json → Except JsonFault Node}

theorem decodeBranch_addsOneLevel (adds : AddsOneLevel decodeNode encode) :
    AddsOneLevel (decodeOption (decodeList decodeNode)) encodeBranch := by
  refine adds.list.option ?_ ?_
  · rw [encodeBranch]
  · intro nodes
    rw [encodeBranch, encodeAll_eq_map]

theorem decodeCase_addsOneLevel (adds : AddsOneLevel decodeNode encode) :
    AddsOneLevel (decodeCase decodeNode) fun branch => .object
      [("expression", branch.1.encode),
        ("children", .array (branch.2.map encode))] := by
  intro form branch ok
  simp only [decodeCase, bind_eq_ok] at ok
  rcases ok with ⟨chosen, isRecord, pattern, first, body, second, ⟨⟩⟩
  have parts := record_partsOf isRecord
  have first := parts.required Expression.addsOneLevel first
  have second := parts.required adds.list second
  exact levels_object_le (by simp [first, second])

end Inside

/-- By induction on the levels of the decoder, one case for each kind. -/
theorem decodeWithin_addsOneLevel (levels : Nat) (inside : Bool) :
    AddsOneLevel (decodeWithin levels inside) encode := by
  induction levels generalizing inside with
  | zero =>
      intro form node ok
      cases ok
  | succ levels inductionHypothesis =>
      have node := inductionHypothesis true
      refine addsOneLevel_tagged ?_
      intro found value ok
      split at ok
      -- Elements: both lists may have been left out.
      case h_2 =>
        simp only [bind_eq_ok] at ok
        rcases ok with ⟨chosen, isRecord, name, named, isVoid, void, items,
          listed, children, inner, ⟨⟩⟩
        have parts := record_partsOf isRecord
        have first := parts.optional (Attribute.addsOneLevel true).list listed
          (Nat.le_refl 1)
        have second := parts.optional node.list inner (Nat.le_refl 1)
        rw [encode, encodeAll_eq_map]
        exact levels_object_le (by simp [first, second])
      -- Loops.
      case h_6 =>
        simp only [bind_eq_ok] at ok
        rcases ok with ⟨chosen, isRecord, header, headed, body, inner, ⟨⟩⟩
        have parts := record_partsOf isRecord
        have first := parts.required Expression.addsOneLevel headed
        have second := parts.required node.list inner
        rw [encode, encodeAll_eq_map]
        exact levels_object_le (by simp [first, second])
      -- Conditionals.
      case h_7 =>
        simp only [bind_eq_ok] at ok
        rcases ok with ⟨chosen, isRecord, condition, tested, thenBranch, inner,
          elseBranch, other, ⟨⟩⟩
        have parts := record_partsOf isRecord
        have first := parts.required Expression.addsOneLevel tested
        have second := parts.required node.list inner
        have third := parts.optional (decodeBranch_addsOneLevel node) other
          (by rw [encodeBranch]; exact Nat.zero_le _)
        rw [encode, encodeAll_eq_map]
        exact levels_object_le (by simp [first, second, third])
      -- Choices.
      case h_8 =>
        simp only [bind_eq_ok] at ok
        rcases ok with ⟨chosen, isRecord, subject, tested, cases, listed,
          fallback, other, ⟨⟩⟩
        have parts := record_partsOf isRecord
        have first := parts.required Expression.addsOneLevel tested
        have second := parts.required (decodeCase_addsOneLevel node).list listed
        have third := parts.optional (decodeBranch_addsOneLevel node) other
          (by rw [encodeBranch]; exact Nat.zero_le _)
        rw [encode, encodeCases_eq_map]
        exact levels_object_le (by simp [first, second, third])
      -- Interpolations and calls.
      case h_5 | h_9 =>
        simp only [bind_eq_ok] at ok
        rcases ok with ⟨chosen, isRecord, expression, valued, ⟨⟩⟩
        have computed :=
          (record_partsOf isRecord).required Expression.addsOneLevel valued
        rw [encode]
        exact levels_object_le (by simp [computed])
      all_goals
        simp only [bind_eq_ok] at ok
        rcases ok with ⟨chosen, isRecord, value, valued, ⟨⟩⟩
        rw [encode]
        exact Nat.le_add_left 1 _

theorem addsOneLevel (inside : Bool) : AddsOneLevel (decode inside) encode :=
  fun form _ ok => decodeWithin_addsOneLevel (form.levels + 1) inside ok

theorem decodeList_addsOneLevel (inside : Bool) :
    AddsOneLevel (decodeList (decode inside)) fun nodes =>
      .array (encodeAll nodes) := by
  have each := (addsOneLevel inside).list
  simpa only [← encodeAll_eq_map] using each

end Node

/-! ## Files -/

namespace Declaration

theorem addsOneLevel : AddsOneLevel decode encode := by
  refine addsOneLevel_tagged ?_
  intro found declaration ok
  split at ok
  · simp only [bind_eq_ok] at ok
    rcases ok with ⟨chosen, isRecord, name, named, parameters, given, children,
      inner, ⟨⟩⟩
    have parts := record_partsOf isRecord
    have first := parts.required Expression.addsOneLevel named
    have second := parts.required Expression.addsOneLevel given
    have third := parts.required (Node.decodeList_addsOneLevel true) inner
    exact levels_object_le (by simp [first, second, third])
  · simp only [bind_eq_ok] at ok
    rcases ok with ⟨chosen, isRecord, name, named, parameters, given,
      properties, inner, ⟨⟩⟩
    have parts := record_partsOf isRecord
    have first := parts.required Expression.addsOneLevel named
    have second := parts.required Expression.addsOneLevel given
    have third := parts.required (StyleProperty.addsOneLevel true).list inner
    exact levels_object_le (by simp [first, second, third])
  · simp only [bind_eq_ok] at ok
    rcases ok with ⟨chosen, isRecord, name, named, parameters, given, body,
      inner, ⟨⟩⟩
    have parts := record_partsOf isRecord
    have first := parts.required Expression.addsOneLevel named
    have second := parts.required Expression.addsOneLevel given
    exact levels_object_le (by simp [first, second])

end Declaration

namespace TemplateFile

theorem addsOneLevel : AddsOneLevel decode encode := by
  intro form file ok
  simp only [decode, bind_eq_ok] at ok
  rcases ok with ⟨chosen, isRecord, package, named, imports, imported,
    declarations, declared, ⟨⟩⟩
  have parts := record_partsOf isRecord
  have first := parts.required Expression.addsOneLevel named
  have second := parts.optional Expression.addsOneLevel.list imported
    (Nat.le_refl 1)
  have third := parts.optional Declaration.addsOneLevel.list declared
    (Nat.le_refl 1)
  exact levels_object_le (by simp [first, second, third])

end TemplateFile

end Templating

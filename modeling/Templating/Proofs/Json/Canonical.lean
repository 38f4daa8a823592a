import Mathlib.Data.List.Forall2
import Mathlib.Data.List.Nodup
import Templating.Proofs.Json.Reading
import Templating.Render.Script

/-!
# The same value with its fields in order

Two values are the same if they differ at most in the order of fields.  If no
object in a value has two fields of one name, putting the fields in the order of
their names gives the same value; otherwise it drops the earlier field.
-/

namespace Templating

/-! ## Entries in order -/

section Ordered

variable {κ β : Type} [DecidableEq κ] {before : κ → κ → Bool} {key : κ}
  {value : β} {entries : List (κ × β)}

theorem insertOrdered_perm (absent : key ∉ entries.map Prod.fst) :
    (insertOrdered before key value entries).Perm ((key, value) :: entries) := by
  induction entries with
  | nil => exact .refl _
  | cons entry rest inductionHypothesis =>
      rcases entry with ⟨other, kept⟩
      rw [List.map_cons, List.mem_cons, not_or] at absent
      rw [insertOrdered, if_neg absent.1]
      split
      · exact .refl _
      · exact ((inductionHypothesis absent.2).cons _).trans (.swap _ _ _)

theorem foldl_insertOrdered_perm (done : List (κ × β))
    (distinct : ((done ++ entries).map Prod.fst).Nodup) :
    (entries.foldl
      (fun done (key, value) => insertOrdered before key value done)
      done).Perm (done ++ entries) := by
  induction entries generalizing done with
  | nil =>
      rw [List.append_nil]
      exact .refl _
  | cons entry rest inductionHypothesis =>
      rcases entry with ⟨key, value⟩
      have absent : key ∉ done.map Prod.fst := by
        rw [List.map_append, List.map_cons, List.nodup_middle,
          List.nodup_cons, List.mem_append, not_or] at distinct
        exact distinct.1.1
      have step : (insertOrdered before key value done ++ rest).Perm
          (done ++ (key, value) :: rest) :=
        ((insertOrdered_perm absent).append_right rest).trans
          List.perm_middle.symm
      refine (inductionHypothesis _ ?_).trans step
      exact ((step.map Prod.fst).nodup_iff).mpr distinct

/-- Entries with different keys are only reordered. -/
theorem ordered_perm (distinct : (entries.map Prod.fst).Nodup) :
    (ordered before entries).Perm entries :=
  foldl_insertOrdered_perm [] distinct

end Ordered

namespace Json

/-! ## Values up to the order of fields -/

/-- The values differ at most in the order of fields. -/
inductive Same : Json → Json → Prop where
  | refl (value : Json) : Same value value
  | array {items others : List Json} (each : List.Forall₂ Same items others) :
      Same (.array items) (.array others)
  | object {fields between others : List (String × Json)}
      (names : fields.map Prod.fst = between.map Prod.fst)
      (each : List.Forall₂ Same (fields.map Prod.snd) (between.map Prod.snd))
      (reordered : between.Perm others) :
      Same (.object fields) (.object others)

mutual

/-- No object in the value has two fields of one name. -/
def hasDistinctNames : Json → Bool
  | .array items => itemsHaveDistinctNames items
  | .object fields =>
      decide (fields.map Prod.fst).Nodup && fieldsHaveDistinctNames fields
  | _ => true

def itemsHaveDistinctNames : List Json → Bool
  | [] => true
  | item :: rest => item.hasDistinctNames && itemsHaveDistinctNames rest

def fieldsHaveDistinctNames : List (String × Json) → Bool
  | [] => true
  | (_, value) :: rest =>
      value.hasDistinctNames && fieldsHaveDistinctNames rest

end

theorem canonicalItems_eq (items : List Json) :
    canonicalItems items = items.map canonical := by
  induction items with
  | nil => rfl
  | cons item rest inductionHypothesis =>
      rw [canonicalItems, List.map_cons, inductionHypothesis]

theorem map_fst_canonicalFields (fields : List (String × Json)) :
    (canonicalFields fields).map Prod.fst = fields.map Prod.fst := by
  induction fields with
  | nil => rfl
  | cons field rest inductionHypothesis =>
      rw [canonicalFields, List.map_cons, List.map_cons, inductionHypothesis]

/-- An object is written with its fields in another order. -/
theorem canonical_object {fields : List (String × Json)}
    (distinct : (fields.map Prod.fst).Nodup) :
    ∃ reordered, (Json.object fields).canonical = .object reordered ∧
      (canonicalFields fields).Perm reordered := by
  refine ⟨_, rfl, (ordered_perm ?_).symm⟩
  rw [map_fst_canonicalFields]
  exact distinct

mutual

theorem same_canonical (value : Json)
    (distinct : value.hasDistinctNames = true) :
    Same value value.canonical := by
  match value with
  | .array items =>
      exact .array (same_canonicalItems items distinct)
  | .object fields =>
      rw [hasDistinctNames, Bool.and_eq_true, decide_eq_true_eq] at distinct
      rcases canonical_object distinct.1 with ⟨reordered, isObject, perm⟩
      rw [isObject]
      exact .object (map_fst_canonicalFields fields).symm
        (same_canonicalFields fields distinct.2) perm
  | .null => exact .refl _
  | .boolean _ => exact .refl _
  | .integer _ => exact .refl _
  | .decimal _ _ => exact .refl _
  | .text _ => exact .refl _
  | .unreadable => exact .refl _

theorem same_canonicalItems (items : List Json)
    (distinct : itemsHaveDistinctNames items = true) :
    List.Forall₂ Same items (canonicalItems items) := by
  match items with
  | [] => exact .nil
  | item :: rest =>
      rw [itemsHaveDistinctNames, Bool.and_eq_true] at distinct
      exact .cons (same_canonical item distinct.1)
        (same_canonicalItems rest distinct.2)

theorem same_canonicalFields (fields : List (String × Json))
    (distinct : fieldsHaveDistinctNames fields = true) :
    List.Forall₂ Same (fields.map Prod.snd)
      ((canonicalFields fields).map Prod.snd) := by
  match fields with
  | [] => exact .nil
  | (name, value) :: rest =>
      rw [fieldsHaveDistinctNames, Bool.and_eq_true] at distinct
      exact .cons (same_canonical value distinct.1)
        (same_canonicalFields rest distinct.2)

end

mutual

theorem discrete_canonical (value : Json) (isDiscrete : value.discrete = true)
    (distinct : value.hasDistinctNames = true) :
    value.canonical.discrete = true := by
  match value with
  | .array items => exact discrete_canonicalItems items isDiscrete distinct
  | .object fields =>
      rw [hasDistinctNames, Bool.and_eq_true, decide_eq_true_eq] at distinct
      have fieldsDiscrete :=
        discrete_canonicalFields fields isDiscrete distinct.2
      rcases canonical_object distinct.1 with ⟨reordered, isObject, perm⟩
      rw [discreteFields_iff] at fieldsDiscrete
      rw [isObject, discrete, discreteFields_iff]
      intro field member
      exact fieldsDiscrete field (perm.symm.subset member)
  | .null => rfl
  | .boolean _ => rfl
  | .integer _ => rfl
  | .decimal _ _ => cases isDiscrete
  | .text _ => rfl
  | .unreadable => cases isDiscrete

theorem discrete_canonicalItems (items : List Json)
    (isDiscrete : discreteItems items = true)
    (distinct : itemsHaveDistinctNames items = true) :
    discreteItems (canonicalItems items) = true := by
  match items with
  | [] => rfl
  | item :: rest =>
      rw [discreteItems, Bool.and_eq_true] at isDiscrete
      rw [itemsHaveDistinctNames, Bool.and_eq_true] at distinct
      rw [canonicalItems, discreteItems, Bool.and_eq_true]
      exact ⟨discrete_canonical item isDiscrete.1 distinct.1,
        discrete_canonicalItems rest isDiscrete.2 distinct.2⟩

theorem discrete_canonicalFields (fields : List (String × Json))
    (isDiscrete : discreteFields fields = true)
    (distinct : fieldsHaveDistinctNames fields = true) :
    discreteFields (canonicalFields fields) = true := by
  match fields with
  | [] => rfl
  | (name, value) :: rest =>
      rw [discreteFields, Bool.and_eq_true] at isDiscrete
      rw [fieldsHaveDistinctNames, Bool.and_eq_true] at distinct
      rw [canonicalFields, discreteFields, Bool.and_eq_true]
      exact ⟨discrete_canonical value isDiscrete.1 distinct.1,
        discrete_canonicalFields rest isDiscrete.2 distinct.2⟩

end

end Json

end Templating

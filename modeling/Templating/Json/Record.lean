import Templating.Json.Basic

/-!
# Records in JSON

A record is written as an object of its fields in any order, or as the array of
its fields in their order.  Fields nobody asks for are ignored, a field that is
asked for may occur once only, and at the end of an array fields may be
missing.

A tagged record names its variant in the field `type`, or as the first item of
an array.
-/

namespace Templating.Json

/-- The fault of a value where another kind of value belongs. -/
def wrongKind : Json → JsonFault
  | .unreadable => .malformed
  | _ => .mismatched

/-- How often a field occurs. -/
def occurrences (name : String) (fields : List (String × Json)) : Nat :=
  fields.countP (·.1 = name)

/-- The fields with the given names, from an object or from an array. -/
def record (names : List String) : Json → Except JsonFault (List (String × Json))
  | .object fields =>
      if names.any fun name => 1 < occurrences name fields then
        .error .mismatched
      else
        .ok (fields.filter fun field => names.contains field.1)
  | .array items =>
      if items.length ≤ names.length then
        .ok (names.zip items)
      else
        .error .mismatched
  | other => .error (wrongKind other)

/-- The value of a field that has to be there. -/
def required {α : Type} (fields : List (String × Json)) (name : String)
    (decode : Json → Except JsonFault α) : Except JsonFault α :=
  match fields.lookup name with
  | some value => decode value
  | none => .error .mismatched

/-- The value of a field that may be missing. -/
def optional {α : Type} (fields : List (String × Json)) (name : String)
    (absent : α) (decode : Json → Except JsonFault α) : Except JsonFault α :=
  match fields.lookup name with
  | some value => decode value
  | none => .ok absent

/-- The name of a variant.  Inside another tagged record it may also be the
place of the variant among all of them. -/
def variantName (variants : List String) (inside : Bool) :
    Json → Except JsonFault String
  | .text name =>
      if variants.contains name then .ok name else .error .mismatched
  | .integer place =>
      match variants[place.value.toNat]? with
      | some name =>
          if inside && 0 ≤ place.value then .ok name else .error .mismatched
      | none => .error .mismatched
  | other => .error (wrongKind other)

/-- The variant of a tagged record and the record without its tag.  All of an
outermost tagged record has to be readable, even what is ignored. -/
def tagged (variants : List String) (inside : Bool) (value : Json) :
    Except JsonFault (String × Json) :=
  if !inside && !value.readable then
    .error .malformed
  else
    match value with
    | .object fields =>
        match fields.filter (·.1 = "type") with
        | [(_, tag)] => do
            let name ← variantName variants inside tag
            .ok (name, .object (fields.filter (·.1 ≠ "type")))
        | _ => .error .mismatched
    | .array (tag :: items) => do
        let name ← variantName variants inside tag
        .ok (name, .array items)
    | other => .error (wrongKind other)

def decodeText : Json → Except JsonFault String
  | .text value => .ok value
  | other => .error (wrongKind other)

def decodeBoolean : Json → Except JsonFault Bool
  | .boolean value => .ok value
  | other => .error (wrongKind other)

def decodeUInt32 : Json → Except JsonFault UInt32
  | .integer number =>
      match number.toUInt32? with
      | some value => .ok value
      | none => .error .mismatched
  | other => .error (wrongKind other)

/-- Every item of an array. -/
def decodeList {α : Type} (decode : Json → Except JsonFault α) :
    Json → Except JsonFault (List α)
  | .array items => items.mapM decode
  | other => .error (wrongKind other)

/-- A value or `null`. -/
def decodeOption {α : Type} (decode : Json → Except JsonFault α) :
    Json → Except JsonFault (Option α)
  | .null => .ok none
  | value => (decode value).map some

end Templating.Json

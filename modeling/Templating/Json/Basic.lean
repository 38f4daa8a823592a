import Templating.Number.Binary64

/-!
# JSON values

A JSON text denotes a tree of values.  Numbers come in two kinds that no
reader mixes up: integers of 64 bits, and decimals, which stand for a binary
floating-point number.

Some scalars are written correctly and still denote nothing, such as half of a
surrogate pair.  They are kept as `unreadable`: an error only for a reader that
needs the value.
-/

namespace Templating

/-- Why a JSON text was refused. -/
inductive JsonFault where
  /-- The text ends too early. -/
  | truncated
  /-- The text is not JSON. -/
  | malformed
  /-- The value has the wrong shape. -/
  | mismatched
  deriving DecidableEq, Repr

/-- An integer that fits 64 bits, with or without a sign. -/
structure JsonInteger where
  value : Int
  /-- At least `-2 ^ 63` and below `2 ^ 64`. -/
  inRange : -9223372036854775808 ≤ value ∧ value < 18446744073709551616
  deriving DecidableEq, Repr

namespace JsonInteger

def ofInt? (value : Int) : Option JsonInteger :=
  if inRange : -9223372036854775808 ≤ value ∧ value < 18446744073709551616 then
    some ⟨value, inRange⟩
  else
    none

def ofUInt32 (value : UInt32) : JsonInteger :=
  ⟨value.toNat, by have := value.toNat_lt; omega⟩

/-- The integer as an unsigned number of 32 bits. -/
def toUInt32? (integer : JsonInteger) : Option UInt32 :=
  if 0 ≤ integer.value && integer.value < 4294967296 then
    some (UInt32.ofNat integer.value.toNat)
  else
    none

@[simp]
theorem toUInt32?_ofUInt32 (value : UInt32) :
    (ofUInt32 value).toUInt32? = some value := by
  have bound : (value.toNat : Int) < 4294967296 := by
    have := value.toNat_lt
    omega
  simp [toUInt32?, ofUInt32, bound]

end JsonInteger

/-- A JSON value.  An object keeps its fields in order, repeated ones
included. -/
inductive Json where
  | null
  | boolean (value : Bool)
  | integer (value : JsonInteger)
  | decimal (negative : Bool) (magnitude : Number.Binary64)
  | text (value : String)
  | array (items : List Json)
  | object (fields : List (String × Json))
  /-- A scalar that is written correctly but denotes no value. -/
  | unreadable

instance : Inhabited Json := ⟨.null⟩

namespace Json

mutual

/-- Nothing in the value is unreadable. -/
def readable : Json → Bool
  | .array items => readableItems items
  | .object fields => readableFields fields
  | .unreadable => false
  | _ => true

def readableItems : List Json → Bool
  | [] => true
  | item :: rest => readable item && readableItems rest

def readableFields : List (String × Json) → Bool
  | [] => true
  | (_, value) :: rest => readable value && readableFields rest

end

mutual

/-- How many arrays and objects stand in each other. -/
def levels : Json → Nat
  | .array items => levelsItems items + 1
  | .object fields => levelsFields fields + 1
  | _ => 0

def levelsItems : List Json → Nat
  | [] => 0
  | item :: rest => max (levels item) (levelsItems rest)

def levelsFields : List (String × Json) → Nat
  | [] => 0
  | (_, value) :: rest => max (levels value) (levelsFields rest)

end

end Json

end Templating

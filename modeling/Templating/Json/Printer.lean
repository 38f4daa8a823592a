import Templating.Json.Basic
import Templating.Json.Text
import Templating.Number.Shortest

/-!
# Writing JSON

The compact text of a value: no blanks, fields in their order.  Decimals are
written with the fewest digits that only their value is nearest to.
-/

namespace Templating.Json

/-- An integer in decimal digits. -/
def writtenInteger (value : Int) : List Char :=
  if value < 0 then
    '-' :: Nat.toDigits 10 value.natAbs
  else
    Nat.toDigits 10 value.natAbs

/-- A decimal with its sign. -/
def writtenDecimal (negative : Bool) (magnitude : Number.Binary64) : List Char :=
  if negative then '-' :: magnitude.shortest.text else magnitude.shortest.text

mutual

/-- The compact text of a value. -/
def written : Json → List Char
  | .null => "null".toList
  | .boolean true => "true".toList
  | .boolean false => "false".toList
  | .integer number => writtenInteger number.value
  | .decimal negative magnitude => writtenDecimal negative magnitude
  | .text value => writtenText value.toList
  | .array [] => ['[', ']']
  | .array (item :: rest) => '[' :: written item ++ writtenItems rest
  | .object [] => ['\x7b', '\x7d']
  | .object ((name, value) :: rest) =>
      '\x7b' :: writtenText name.toList ++ ':' :: written value ++
        writtenFields rest
  | .unreadable => "null".toList

/-- The items behind the first one, and the closing bracket. -/
def writtenItems : List Json → List Char
  | [] => [']']
  | item :: rest => ',' :: written item ++ writtenItems rest

/-- The fields behind the first one, and the closing brace. -/
def writtenFields : List (String × Json) → List Char
  | [] => ['\x7d']
  | (name, value) :: rest =>
      ',' :: writtenText name.toList ++ ':' :: written value ++
        writtenFields rest

end

/-- The compact text of a value. -/
def print (value : Json) : String :=
  String.ofList (written value)

end Templating.Json

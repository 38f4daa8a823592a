import Templating.Json.Printer
import Templating.Markup.Escape

/-!
# Scripts

A script is a function that the page needs once and a call of it.  The
arguments of the call are written as JSON and escaped, so that the call can
stand inside a quoted attribute.

Objects are written with their fields in the order of the code points of their
names; of fields with one name the last counts.
-/

namespace Templating

/-- The entries with one more, in the order of the keys.  An entry with the
same key is replaced. -/
def insertOrdered {κ β : Type} [DecidableEq κ] (before : κ → κ → Bool) (key : κ)
    (value : β) : List (κ × β) → List (κ × β)
  | [] => [(key, value)]
  | (other, kept) :: rest =>
      if key = other then
        (key, value) :: rest
      else if before key other then
        (key, value) :: (other, kept) :: rest
      else
        (other, kept) :: insertOrdered before key value rest

/-- The entries in the order of their keys; of entries with one key the last
counts. -/
def ordered {κ β : Type} [DecidableEq κ] (before : κ → κ → Bool)
    (entries : List (κ × β)) : List (κ × β) :=
  entries.foldl
    (fun done (key, value) => insertOrdered before key value done) []

namespace Json

mutual

/-- The value with the fields of every object in order. -/
def canonical : Json → Json
  | .array items => .array (canonicalItems items)
  | .object fields =>
      .object (ordered (fun left right => decide (left < right))
        (canonicalFields fields))
  | other => other

def canonicalItems : List Json → List Json
  | [] => []
  | item :: rest => canonical item :: canonicalItems rest

def canonicalFields : List (String × Json) → List (String × Json)
  | [] => []
  | (name, value) :: rest => (name, canonical value) :: canonicalFields rest

end

end Json

namespace Render

/-- A value that a script is called with. -/
inductive ScriptArgument where
  | json (value : Json)
  /-- A floating-point number that is infinite or not a number. -/
  | nonFinite
  /-- A map from integers. -/
  | integerMap (entries : List (Int × Json))
  /-- A map from lists of one integer. -/
  | listMap (entries : List (Int × Json))

namespace ScriptArgument

/-- The JSON value of an argument.  Integers can be names of fields, lists
cannot. -/
def toJson? : ScriptArgument → Option Json
  | .json value => some value.canonical
  | .nonFinite => some .null
  | .integerMap entries =>
      some <| .object <|
        (ordered (fun left right => decide (left < right)) entries).map
          fun (key, value) =>
            (String.ofList (Json.writtenInteger key), value.canonical)
  | .listMap [] => some (.object [])
  | .listMap (_ :: _) => none

/-- The text of an argument inside a call; `null` if it has no JSON value. -/
def encode (argument : ScriptArgument) : String :=
  match argument.toJson? with
  | some value => Markup.escape value.print
  | none => "null"

end ScriptArgument

/-- A call of a function with encoded arguments. -/
def callText (function : String) (arguments : List String) : String :=
  function ++ "(" ++ ",".intercalate arguments ++ ")"

/-- A script that a component uses. -/
structure Script where
  /-- The name of the function. -/
  name : String
  /-- The source of the function. -/
  function : String
  /-- The call with its encoded arguments. -/
  call : String
  deriving DecidableEq, Repr

end Render

end Templating

import Templating.Json.Printer
import Templating.Json.Reader

/-!
# Values with a JSON form

The types that are exchanged as JSON, each with its own encoding.
-/

namespace Templating

/-- A type whose values are exchanged as JSON. -/
class JsonForm (α : Type) where
  encode : α → Json
  decode : Json → Except JsonFault α
  /-- The places that decoding passes over. -/
  passesOver : Json.Place → Bool := Json.Place.needed

namespace JsonForm

variable {α : Type} [JsonForm α]

/-- The JSON text of a value. -/
def print (value : α) : String :=
  (encode value).print

/-- The value of a JSON text. -/
def parse (text : String) : Except JsonFault α := do
  let value ← Json.readFor (passesOver α) text
  decode value

end JsonForm

end Templating

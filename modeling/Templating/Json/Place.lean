/-!
# Places in JSON values

A place is the way from a value to one of its parts.  A reader knows which
places are passed over, because it is stricter about what is asked for: nesting
is limited there, and where a number ends too early, its rest is missing; in a
part that is passed over nobody waits for a rest, and what stands there is no
number.
-/

namespace Templating.Json

/-- One step into a value. -/
inductive PlaceStep where
  | item (index : Nat)
  /-- A field; without a name if what is written as its name denotes no text. -/
  | field (name : Option String)
  deriving DecidableEq, Repr

/-- The steps from a value to one of its parts, the outermost first. -/
abbrev Place := List PlaceStep

namespace Place

/-- A place that nobody passes over. -/
def needed (_ : Place) : Bool := false

/-- A place of a value that is passed over as a whole. -/
def ignored (_ : Place) : Bool := true

/-- The places passed over in the part behind a step. -/
def below (step : PlaceStep) (passesOver : Place → Bool) : Place → Bool :=
  fun place => passesOver (step :: place)

/-- The places passed over in the items of a list. -/
def inItems (passesOver : Place → Bool) : Place → Bool
  | .item _ :: place => passesOver place
  | _ => false

/-- The places passed over in a record: fields nobody asks for, and what is
passed over in the others. -/
def inRecord (fields : List (String × (Place → Bool))) : Place → Bool
  | .field (some name) :: place =>
      match fields.lookup name with
      | some passesOver => passesOver place
      | none => true
  | .field none :: _ => true
  | .item index :: place =>
      match fields[index]? with
      | some (_, passesOver) => passesOver place
      | none => false
  | [] => false

end Place

end Templating.Json

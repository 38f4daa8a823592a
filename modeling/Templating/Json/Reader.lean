import Templating.Json.Number
import Templating.Json.Place
import Templating.Json.Text

/-!
# Reading JSON

A reader takes the characters that are left and gives a value and the
characters behind it.  It stops where the text ends too early or is outside the
grammar.

The grammar is strict: no comments, no trailing commas, no leading zeros, no
raw control characters in strings, and nothing but blanks behind the value.
Arrays and objects may be nested as far as there are levels; what is passed over
may be nested further.
-/

namespace Templating.Json

/-- A character between the parts of a JSON text. -/
def isGap (character : Char) : Bool :=
  character = ' ' || character = '\n' || character = '\t' || character = '\r'

def skipGap (characters : List Char) : List Char :=
  characters.dropWhile isGap

/-- The rest behind the expected characters. -/
def readExactly : (expected characters : List Char) → Except JsonFault (List Char)
  | [], rest => .ok rest
  | _ :: _, [] => .error .truncated
  | wanted :: expected, found :: rest =>
      if wanted = found then readExactly expected rest else .error .malformed

/-! ## Strings -/

/-- Four hexadecimal digits are missing: fewer than four bytes are left, or the
bytes that are left are others. -/
def missingDigits (characters : List Char) : JsonFault :=
  if (String.ofList characters).utf8ByteSize < 4 then .truncated else .malformed

/-- The items of a string up to its closing quote. -/
def readItems : List Char → Except JsonFault (List TextItem × List Char)
  | [] => .error .truncated
  | '"' :: rest => .ok ([], rest)
  | ['\\'] => .error .truncated
  | '\\' :: 'u' :: rest =>
      match rest with
      | first :: second :: third :: fourth :: rest' =>
          match hexQuad? first second third fourth with
          | none => .error (missingDigits rest)
          | some unit => do
              let (items, after) ← readItems rest'
              .ok (.escapedUnit unit :: items, after)
      | _ => .error (missingDigits rest)
  | '\\' :: letter :: rest =>
      match shortEscape? letter with
      | none => .error .malformed
      | some character => do
          let (items, after) ← readItems rest
          .ok (.character character :: items, after)
  | character :: rest =>
      if character.toNat < 0x20 then
        .error .malformed
      else do
        let (items, after) ← readItems rest
        .ok (.character character :: items, after)

/-- A string behind its opening quote; none if it denotes no text. -/
def readText (characters : List Char) :
    Except JsonFault (Option String × List Char) := do
  let (items, rest) ← readItems characters
  .ok ((TextItem.decode? items).map String.ofList, rest)

/-! ## Numbers -/

/-- At least one digit. -/
def readDigits (characters : List Char) :
    Except JsonFault (List Char × List Char) :=
  match characters with
  | [] => .error .truncated
  | first :: _ =>
      if first.isDigit then
        .ok (characters.takeWhile Char.isDigit, characters.dropWhile Char.isDigit)
      else
        .error .malformed

/-- The digits before the point: a lone zero, or digits that start with another
one. -/
def readWhole (characters : List Char) :
    Except JsonFault (List Char × List Char) := do
  let (digits, rest) ← readDigits characters
  match digits with
  | '0' :: _ :: _ => .error .malformed
  | _ => .ok (digits, rest)

/-- The digits behind a point, if there is one. -/
def readPlaces : List Char → Except JsonFault (Option (List Char) × List Char)
  | '.' :: rest => do
      let (digits, after) ← readDigits rest
      .ok (some digits, after)
  | characters => .ok (none, characters)

/-- The digits of an exponent and their sign. -/
def readSignedDigits : List Char → Except JsonFault (Int × List Char)
  | '-' :: rest => do
      let (digits, after) ← readDigits rest
      .ok (-(Nat.ofDigitChars 10 digits 0 : Int), after)
  | '+' :: rest => do
      let (digits, after) ← readDigits rest
      .ok ((Nat.ofDigitChars 10 digits 0 : Int), after)
  | characters => do
      let (digits, after) ← readDigits characters
      .ok ((Nat.ofDigitChars 10 digits 0 : Int), after)

/-- The exponent, if there is one. -/
def readExponent : List Char → Except JsonFault (Option Int × List Char)
  | 'e' :: rest | 'E' :: rest => do
      let (exponent, after) ← readSignedDigits rest
      .ok (some exponent, after)
  | characters => .ok (none, characters)

/-- A number behind its sign. -/
def readUnsigned (negative : Bool) (characters : List Char) :
    Except JsonFault (Json × List Char) := do
  let (whole, rest) ← readWhole characters
  let (places, rest) ← readPlaces rest
  let (exponent, rest) ← readExponent rest
  .ok (ofNumber negative whole places exponent, rest)

def readNumber : List Char → Except JsonFault (Json × List Char)
  | '-' :: rest => readUnsigned true rest
  | characters => readUnsigned false characters

/-! ## Values -/

/-- The object of fields whose names may be unreadable. -/
def ofFields (fields : List (Option String × Json)) : Json :=
  match fields.mapM fun (name?, value) => name?.map (·, value) with
  | some fields => .object fields
  | none => .unreadable

/-- What is wrong with a number: where it is passed over, also one that ends too
early is just no number. -/
def numberFault (passesOver : Place → Bool) (fault : JsonFault) : JsonFault :=
  if passesOver [] then .malformed else fault

/-- An array or object may be opened: there is a level left for it, or it is
passed over. -/
def mayOpen (passesOver : Place → Bool) (levels : Nat) : Bool :=
  passesOver [] || 0 < levels

mutual

/-- A value; the fuel bounds the calls below this one. -/
def readValue (passesOver : Place → Bool) (levels : Nat) : (fuel : Nat) →
    List Char → Except JsonFault (Json × List Char)
  | 0, _ => .error .malformed
  | fuel + 1, characters =>
      match skipGap characters with
      | [] => .error .truncated
      | 'n' :: rest => do .ok (.null, ← readExactly "ull".toList rest)
      | 't' :: rest => do .ok (.boolean true, ← readExactly "rue".toList rest)
      | 'f' :: rest => do .ok (.boolean false, ← readExactly "alse".toList rest)
      | '"' :: rest => do
          let (text?, after) ← readText rest
          .ok ((text?.map Json.text).getD .unreadable, after)
      | '[' :: rest =>
          if mayOpen passesOver levels then
            match skipGap rest with
            | ']' :: after => .ok (.array [], after)
            | inside => do
                let (item, after) ← readValue (Place.below (.item 0) passesOver)
                  (levels - 1) fuel inside
                let (items, after) ←
                  readMoreItems passesOver (levels - 1) 1 fuel after
                .ok (.array (item :: items), after)
          else
            .error .malformed
      | '\x7b' :: rest =>
          if mayOpen passesOver levels then
            match skipGap rest with
            | '\x7d' :: after => .ok (.object [], after)
            | inside => do
                let (field, after) ← readField passesOver (levels - 1) fuel inside
                let (fields, after) ←
                  readMoreFields passesOver (levels - 1) fuel after
                .ok (ofFields (field :: fields), after)
          else
            .error .malformed
      | first :: rest =>
          if first = '-' || first.isDigit then
            (readNumber (first :: rest)).mapError (numberFault passesOver)
          else
            .error .malformed
termination_by structural fuel => fuel

/-- The items from some index on, and the closing bracket. -/
def readMoreItems (passesOver : Place → Bool) (levels index : Nat) :
    (fuel : Nat) → List Char → Except JsonFault (List Json × List Char)
  | 0, _ => .error .malformed
  | fuel + 1, characters =>
      match skipGap characters with
      | [] => .error .truncated
      | ']' :: after => .ok ([], after)
      | ',' :: rest => do
          let (item, after) ←
            readValue (Place.below (.item index) passesOver) levels fuel rest
          let (items, after) ←
            readMoreItems passesOver levels (index + 1) fuel after
          .ok (item :: items, after)
      | _ => .error .malformed
termination_by structural fuel => fuel

/-- One field: a name, a colon and a value. -/
def readField (passesOver : Place → Bool) (levels : Nat) : (fuel : Nat) →
    List Char → Except JsonFault ((Option String × Json) × List Char)
  | 0, _ => .error .malformed
  | fuel + 1, characters =>
      match skipGap characters with
      | [] => .error .truncated
      | '"' :: rest => do
          let (name?, after) ← readText rest
          match skipGap after with
          | [] => .error .truncated
          | ':' :: rest => do
              let (value, after) ←
                readValue (Place.below (.field name?) passesOver) levels fuel rest
              .ok ((name?, value), after)
          | _ => .error .malformed
      | _ => .error .malformed
termination_by structural fuel => fuel

/-- The fields behind the first one, and the closing brace. -/
def readMoreFields (passesOver : Place → Bool) (levels : Nat) : (fuel : Nat) →
    List Char → Except JsonFault (List (Option String × Json) × List Char)
  | 0, _ => .error .malformed
  | fuel + 1, characters =>
      match skipGap characters with
      | [] => .error .truncated
      | '\x7d' :: after => .ok ([], after)
      | ',' :: rest => do
          let (field, after) ← readField passesOver levels fuel rest
          let (fields, after) ← readMoreFields passesOver levels fuel after
          .ok (field :: fields, after)
      | _ => .error .malformed
termination_by structural fuel => fuel

end

/-! ## Texts -/

/-- Enough fuel for any text of this length: every step but the first reads at
least one character. -/
def fuelFor (characters : List Char) : Nat :=
  2 * characters.length + 2

/-- How many arrays and objects may be open at once where values are asked
for. -/
def levelLimit : Nat := 127

/-- The value of a whole text, for a reader that passes over some places. -/
def readFor (passesOver : Place → Bool) (text : String) :
    Except JsonFault Json := do
  let (value, rest) ←
    readValue passesOver levelLimit (fuelFor text.toList) text.toList
  if (skipGap rest).isEmpty then .ok value else .error .malformed

/-- The value of a whole text of any nesting. -/
def read (text : String) : Except JsonFault Json :=
  readFor Place.ignored text

end Templating.Json

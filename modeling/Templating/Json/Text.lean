/-!
# JSON strings

Written strings escape the quote, the backslash and the characters below
U+0020, five of which have short forms.  Read strings may escape any character
by its UTF-16 units, a character beyond the first plane by a surrogate pair.
-/

namespace Templating.Json

/-- The lower-case hexadecimal digits of a number below 256. -/
def hexPair (value : Nat) : List Char :=
  [Nat.digitChar (value / 16), Nat.digitChar (value % 16)]

/-- A character as it is written inside a string. -/
def writtenChar (character : Char) : List Char :=
  match character with
  | '"' => ['\\', '"']
  | '\\' => ['\\', '\\']
  | '\x08' => ['\\', 'b']
  | '\x0c' => ['\\', 'f']
  | '\n' => ['\\', 'n']
  | '\r' => ['\\', 'r']
  | '\t' => ['\\', 't']
  | other =>
      if other.toNat < 0x20 then
        ['\\', 'u', '0', '0'] ++ hexPair other.toNat
      else
        [other]

/-- A string with its quotes. -/
def writtenText (text : List Char) : List Char :=
  '"' :: text.flatMap writtenChar ++ ['"']

/-- The value of a hexadecimal digit of either case. -/
def hexValue? (digit : Char) : Option Nat :=
  if digit.isDigit then some (digit.toNat - '0'.toNat)
  else if 'a' ≤ digit && digit ≤ 'f' then some (digit.toNat - 'a'.toNat + 10)
  else if 'A' ≤ digit && digit ≤ 'F' then some (digit.toNat - 'A'.toNat + 10)
  else none

/-- The number that four hexadecimal digits write. -/
def hexQuad? (first second third fourth : Char) : Option Nat := do
  let first ← hexValue? first
  let second ← hexValue? second
  let third ← hexValue? third
  let fourth ← hexValue? fourth
  return ((first * 16 + second) * 16 + third) * 16 + fourth

/-- One item of a string as it is read: a character, or the UTF-16 unit of an
escape. -/
inductive TextItem where
  | character (value : Char)
  | escapedUnit (value : Nat)
  deriving DecidableEq, Repr

/-- The character that a one-letter escape stands for. -/
def shortEscape? (letter : Char) : Option Char :=
  match letter with
  | '"' => some '"'
  | '\\' => some '\\'
  | '/' => some '/'
  | 'b' => some '\x08'
  | 'f' => some '\x0c'
  | 'n' => some '\n'
  | 'r' => some '\r'
  | 't' => some '\t'
  | _ => none

/-- The unit is the first half of a surrogate pair. -/
def isHighSurrogate (unit : Nat) : Bool :=
  0xD800 ≤ unit && unit < 0xDC00

/-- The unit is the second half of a surrogate pair. -/
def isLowSurrogate (unit : Nat) : Bool :=
  0xDC00 ≤ unit && unit < 0xE000

/-- The character of a surrogate pair. -/
def pairedChar (high low : Nat) : Char :=
  Char.ofNat (0x10000 + (high - 0xD800) * 0x400 + (low - 0xDC00))

/-- The characters that the items denote; none if half of a surrogate pair
stands alone. -/
def TextItem.decode? : List TextItem → Option (List Char)
  | [] => some []
  | .character value :: rest => (decode? rest).map (value :: ·)
  | .escapedUnit high :: .escapedUnit low :: rest =>
      if isHighSurrogate high then
        if isLowSurrogate low then
          (decode? rest).map (pairedChar high low :: ·)
        else
          none
      else if isLowSurrogate high then
        none
      else
        (decode? (.escapedUnit low :: rest)).map (Char.ofNat high :: ·)
  | .escapedUnit unit :: rest =>
      if isHighSurrogate unit || isLowSurrogate unit then
        none
      else
        (decode? rest).map (Char.ofNat unit :: ·)

end Templating.Json

/-!
# Blank characters

The characters with the Unicode property White_Space, and trimming by them.
-/

namespace Templating.Text

/-- The ranges of the property White_Space, ends included. -/
def blankRanges : List (Nat × Nat) :=
  [(0x09, 0x0D), (0x20, 0x20), (0x85, 0x85), (0xA0, 0xA0), (0x1680, 0x1680),
    (0x2000, 0x200A), (0x2028, 0x2029), (0x202F, 0x202F), (0x205F, 0x205F),
    (0x3000, 0x3000)]

/-- The character has the property White_Space. -/
def isBlank (character : Char) : Bool :=
  blankRanges.any fun (first, last) =>
    first ≤ character.toNat && character.toNat ≤ last

/-- A line's own blanks are among them. -/
example : " \t\n\r\x0b\x0c\u00a0\u2003\u3000".toList.all isBlank := by decide

def trimLeft (characters : List Char) : List Char :=
  characters.dropWhile isBlank

def trimRight (characters : List Char) : List Char :=
  (trimLeft characters.reverse).reverse

/-- Drops blanks at both ends. -/
def trim (characters : List Char) : List Char :=
  trimRight (trimLeft characters)

/-- Drops blanks at both ends of a string. -/
def trimmed (text : String) : String :=
  String.ofList (trim text.toList)

end Templating.Text

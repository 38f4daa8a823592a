import Templating.Text.Hidden

/-!
# String literals

A literal for every text, so that the generated code holds exactly that text.

* A text without quotes and backslashes stands between quotes as it is.
* Other text is written raw, between a quote and as many `#` as no quote
  inside is followed by.
* Raw text cannot hold a carriage return and takes at most 255 `#`; text
  outside these limits is escaped character by character.
-/

namespace Templating.Code.Literal

/-- The most `#` a raw literal may have on each side. -/
def maxHashes : Nat := 255

/-- The number of `#` a text starts with. -/
def leadingHashes (text : List Char) : Nat :=
  (text.takeWhile (· = '#')).length

/-- The longest run of `#` right behind a quote; zero if no quote has any. -/
def longestHashRun : List Char → Nat
  | [] => 0
  | '"' :: rest => max (leadingHashes rest) (longestHashRun rest)
  | _ :: rest => longestHashRun rest

/-- A character as it is written inside an escaped literal. -/
def escapedChar (character : Char) : List Char :=
  match character with
  | '\x00' => ['\\', '0']
  | '\t' => ['\\', 't']
  | '\r' => ['\\', 'r']
  | '\n' => ['\\', 'n']
  | '"' => ['\\', '"']
  | '\\' => ['\\', '\\']
  | other =>
      if Text.isHidden other then
        ['\\', 'u', '\x7b'] ++ Nat.toDigits 16 other.toNat ++ ['\x7d']
      else
        [other]

/-- The text between quotes as it is. -/
def plain (text : List Char) : List Char :=
  '"' :: text ++ ['"']

/-- The text between quotes with every special character escaped. -/
def escaped (text : List Char) : List Char :=
  '"' :: text.flatMap escapedChar ++ ['"']

/-- The text between quotes and runs of `#`. -/
def raw (hashes : Nat) (text : List Char) : List Char :=
  'r' :: List.replicate hashes '#' ++ plain text ++ List.replicate hashes '#'

/-- The literal of a text. -/
def literalChars (text : List Char) : List Char :=
  if text.contains '\r' then
    escaped text
  else if !text.contains '"' && !text.contains '\\' then
    plain text
  else if maxHashes ≤ longestHashRun text then
    escaped text
  else
    raw (longestHashRun text + 1) text

end Templating.Code.Literal

namespace Templating.Code

/-- The string literal that evaluates to the text. -/
def literal (text : String) : String :=
  String.ofList (Literal.literalChars text.toList)

/-- The escaped literal of the text, whatever the text contains. -/
def escapedLiteral (text : String) : String :=
  String.ofList (Literal.escaped text.toList)

end Templating.Code

import Templating.Text.Blank
import Templating.Text.Search

/-!
# Sanitized style declarations

A declaration `name:value;` is checked against what a harmless declaration may
contain.  A name or a value that fails is not an error: a fixed placeholder
takes its place, and the declaration has no effect.

A value is refused for a character outside the accepted ones, and also for a
fragment that reaches outside the declaration (`url(`, `expression(`, a binding
or a comment mark), in any letter case.
-/

namespace Templating.Style

/-- Stands in for a refused property name. -/
def unsafePropertyName : String := "zTemperaUnsafeCssPropertyName"

/-- Stands in for a refused property value. -/
def unsafePropertyValue : String := "zTemperaUnsafeCssPropertyValue"

/-- A character after the first letter of a property name. -/
def isPropertyNameChar (character : Char) : Bool :=
  character.isAlphanum || character = '-'

/-- A letter, then letters, digits and hyphens. -/
def isPlainPropertyName : List Char → Bool
  | [] => false
  | first :: rest => first.isAlpha && rest.all isPropertyNameChar

/-- A plain name with at most one hyphen before it. -/
def isPropertyName : List Char → Bool
  | '-' :: rest => isPlainPropertyName rest
  | name => isPlainPropertyName name

/-- The marks a property value may contain besides letters, digits and
blanks. -/
def valueMarks : List Char :=
  ['#', '%', ',', '.', '(', ')', '\x27', '+', '-', '_', '!', '/', '*']

def isValueChar (character : Char) : Bool :=
  character.isAlphanum || Text.isBlank character ||
    valueMarks.contains character

/-- Pieces no value may contain, in lower case. -/
def deniedPieces : List String :=
  ["expression(", "url(", "/*", "*/", "-moz-binding"]

/-- Every character is accepted and no denied piece occurs in any letter
case. -/
def isPropertyValue (value : List Char) : Bool :=
  value.all isValueChar &&
    !deniedPieces.any fun piece =>
      Text.hasPiece piece.toList (value.map Char.toLower)

/-- The name as given if it is accepted, the placeholder otherwise. -/
def safePropertyName (name : List Char) : List Char :=
  if isPropertyName name then name else unsafePropertyName.toList

/-- The value as given if it is accepted, the placeholder otherwise. -/
def safePropertyValue (value : List Char) : List Char :=
  if isPropertyValue value then value else unsafePropertyValue.toList

/-- The declaration of a name and a value, both without the blanks around
them. -/
def declarationChars (name value : List Char) : List Char :=
  safePropertyName (Text.trim name) ++
    ':' :: safePropertyValue (Text.trim value) ++ [';']

/-- The declaration `name:value;` with everything unsafe replaced. -/
def declaration (name value : String) : String :=
  String.ofList (declarationChars name.toList value.toList)

theorem isPropertyName_placeholder :
    isPropertyName unsafePropertyName.toList = true := by decide

theorem isPropertyValue_placeholder :
    isPropertyValue unsafePropertyValue.toList = true := by decide

theorem isPropertyName_safePropertyName (name : List Char) :
    isPropertyName (safePropertyName name) = true := by
  unfold safePropertyName
  split
  · assumption
  · exact isPropertyName_placeholder

theorem isPropertyValue_safePropertyValue (value : List Char) :
    isPropertyValue (safePropertyValue value) = true := by
  unfold safePropertyValue
  split
  · assumption
  · exact isPropertyValue_placeholder

end Templating.Style

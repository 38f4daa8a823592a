import Templating.Digest.Identifier
import Templating.Style.Declaration

/-!
# Classes

A class is either a plain name or comes with a style rule that has to be
somewhere on the page.  A class list is the value of one `class` attribute.

A rule is built from the declarations of a style template; the name of its
class carries the first digits of their digest.
-/

namespace Templating.Style

/-- Stands in for a refused class name. -/
def fallbackClassName : String := "--tempera-css-class-safe-name"

/-- A character that may start a class name. -/
def isClassNameStart (character : Char) : Bool :=
  character = '_' || character.isAlpha

/-- A character that may follow in a class name. -/
def isClassNameChar (character : Char) : Bool :=
  character = '_' || character = '-' || character.isAlphanum

/-- A start character, then class name characters. -/
def isPlainClassName : List Char → Bool
  | [] => false
  | first :: rest => isClassNameStart first && rest.all isClassNameChar

/-- A plain class name with at most one hyphen before it. -/
def isClassName : List Char → Bool
  | '-' :: rest => isPlainClassName rest
  | name => isPlainClassName name

/-- A class with the style rule it needs. -/
structure StyledClass where
  /-- The class name. -/
  id : String
  /-- The complete rule. -/
  rule : String
  deriving DecidableEq, Repr

/-- One entry of a `class` attribute. -/
inductive Class where
  | constant (name : String)
  | styled (styledClass : StyledClass)
  deriving DecidableEq, Repr

namespace Class

/-- The name in the attribute. -/
def name : Class → String
  | .constant name => name
  | .styled styledClass => styledClass.id

/-- The class of a checked name: the fallback unless the name is accepted. -/
def ofName (name : String) : Class :=
  if isClassName name.toList then .constant name else .constant fallbackClassName

def isStyled : Class → Bool
  | .constant _ => false
  | .styled _ => true

end Class

/-- The styled classes among some classes, in order. -/
def styledClasses (classes : List Class) : List StyledClass :=
  classes.filterMap fun
    | .constant _ => none
    | .styled styledClass => some styledClass

/-- The value of a `class` attribute, before it is escaped. -/
def attributeValue (classes : List Class) : String :=
  " ".intercalate (classes.map Class.name)

/-- The class of a style template with these declarations. -/
def StyledClass.ofDeclarations (name declarations : String) : StyledClass :=
  let id := Digest.classIdentifier name declarations
  ⟨id, "." ++ id ++ "\x7b" ++ declarations ++ "\x7d"⟩

end Templating.Style

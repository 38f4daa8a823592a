import Templating.Text.Blank

/-!
# Parameter lists

The names that a parameter list binds, without their types.  The list is cut
at its commas and every parameter at its first colon, but only outside of
brackets, so a type may hold both.

The angle of an arrow `->` closes no bracket.
-/

namespace Templating.Parameters

/-- The bracket depth behind a character, given the depth and the character
before it. -/
def depthAfter (depth : Nat) (previous current : Char) : Nat :=
  if ['(', '[', '\x7b', '<'].contains current then
    depth + 1
  else if current = '>' && previous = '-' then
    depth
  else if [')', ']', '\x7d', '>'].contains current then
    depth - 1
  else
    depth

/-- Splits at a separator outside of brackets, from a given depth and previous
character on. -/
def splitFrom (separator : Char) (depth : Nat) (previous : Char) :
    List Char → List (List Char)
  | [] => [[]]
  | current :: rest =>
      if current = separator && depth = 0 then
        [] :: splitFrom separator 0 current rest
      else
        (splitFrom separator (depthAfter depth previous current) current
          rest).modifyHead (current :: ·)

/-- Splits at a separator outside of brackets. -/
def splitTopLevel (separator : Char) (characters : List Char) :
    List (List Char) :=
  splitFrom separator 0 '\x00' characters

/-- Drops the mutability mark of a binding. -/
def withoutMutable (binding : List Char) : List Char :=
  if "mut ".toList.isPrefixOf binding then
    Text.trimLeft (binding.drop 4)
  else
    binding

/-- The name bound by one parameter; empty if there is none. -/
def bindingOf (parameter : List Char) : List Char :=
  withoutMutable (Text.trim ((splitTopLevel ':' parameter).headD []))

/-- The names bound by a parameter list. -/
def bindingChars (parameters : List Char) : List (List Char) :=
  ((splitTopLevel ',' parameters).map bindingOf).filter (!·.isEmpty)

/-- The names bound by a parameter list. -/
def bindings (parameters : String) : List String :=
  (bindingChars parameters.toList).map String.ofList

end Templating.Parameters

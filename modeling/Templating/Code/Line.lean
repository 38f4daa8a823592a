import Templating.Code.Literal
import Templating.Output.Tracker
import Templating.Template

/-!
# Lines of generated code

A line is indented by whole steps and made of fragments: the generator's own
words, literals, expressions of the template, and other text taken over as it
is.  Of these, expressions are the ones that a source map records.
-/

namespace Templating.Code

/-- A piece of a line. -/
inductive Fragment where
  /-- The generator's own text. -/
  | words (text : String)
  /-- The literal of a text. -/
  | quoted (text : String)
  /-- An expression of the template. -/
  | copied (expression : Expression)
  /-- Other text that was given to the generator. -/
  | verbatim (text : String)
  deriving DecidableEq, Repr

/-- The text of a fragment. -/
def Fragment.text : Fragment → String
  | .words text => text
  | .quoted text => literal text
  | .copied expression => expression.value
  | .verbatim text => text

/-- A line of code. -/
structure Line where
  /-- Steps of indentation. -/
  depth : Nat
  fragments : List Fragment
  deriving DecidableEq, Repr

namespace Line

/-- A line of the generator's own text. -/
def plain (depth : Nat) (text : String) : Line := ⟨depth, [.words text]⟩

/-- A line without anything on it. -/
def blank : Line := ⟨0, []⟩

/-- Everything on the line, with its indentation and its end. -/
def content (line : Line) : List Fragment :=
  List.replicate line.depth (.words indentUnit) ++ line.fragments ++ [.words "\n"]

end Line

/-- A line, or the place where no code could be given for an element. -/
inductive Entry where
  | line (line : Line)
  | rejected (tag : String)
  deriving DecidableEq, Repr

/-- The entry of a line of the generator's own text. -/
def Entry.plain (depth : Nat) (text : String) : Entry := .line (.plain depth text)

/-- The entry of a line of fragments. -/
def Entry.of (depth : Nat) (fragments : List Fragment) : Entry :=
  .line ⟨depth, fragments⟩

end Templating.Code

/-!
# Escaped text

The five characters with a meaning in HTML text or in a quoted attribute are
written as entities; everything else is written as it is.
-/

namespace Templating.Markup

/-- One character as it is written in text and in quoted attributes. -/
def escapeChar (character : Char) : List Char :=
  match character with
  | '&' => "&amp;".toList
  | '<' => "&lt;".toList
  | '>' => "&gt;".toList
  | '"' => "&quot;".toList
  | '\'' => "&apos;".toList
  | other => [other]

def escapeChars (characters : List Char) : List Char :=
  characters.flatMap escapeChar

/-- A text as it is written in text and in quoted attributes. -/
def escape (text : String) : String :=
  String.ofList (escapeChars text.toList)

@[simp]
theorem escapeChars_append (first second : List Char) :
    escapeChars (first ++ second) = escapeChars first ++ escapeChars second :=
  List.flatMap_append

end Templating.Markup

import Templating.Digest.Identifier
import Templating.Parameters
import Templating.Template
import Templating.Text.Blank

/-!
# Functions of script templates

A script template becomes one named function.  Its name carries the digest of
the body as it was written; the body itself is written without the blanks
around it.
-/

namespace Templating.ScriptTemplate

/-- The name of the function. -/
def functionName (template : ScriptTemplate) : String :=
  Digest.functionIdentifier template.name.value template.body

/-- The names of its parameters. -/
def arguments (template : ScriptTemplate) : List String :=
  Parameters.bindings template.parameters.value

/-- The source of the function. -/
def functionSource (template : ScriptTemplate) : String :=
  "function " ++ template.functionName ++ "(" ++
    ", ".intercalate template.arguments ++ ")\x7b" ++
    Text.trimmed template.body ++ "\x7d"

end Templating.ScriptTemplate

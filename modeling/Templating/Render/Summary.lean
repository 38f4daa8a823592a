import Templating.Code.Literal
import Templating.Render.Component

/-!
# Summaries for inspection

One-line texts that show the state of a render.
-/

namespace Templating.Render

/-- The names of a registry as a set of literals. -/
def registrySummary (registry : Registry) : String :=
  "StringSet \x7b items: \x7b" ++
    ", ".intercalate (registry.names.map Code.escapedLiteral) ++ "\x7d \x7d"

/-- A registry that may not exist yet. -/
def registrySummary? : Option Registry → String
  | none => "None"
  | some registry => "Some(" ++ registrySummary registry ++ ")"

/-- The registries of a scope and whether it has children. -/
def Scope.summary (scope : Scope) : String :=
  "RenderScope \x7b css_classes: " ++ registrySummary? scope.styles ++
    ", scripts: " ++ registrySummary? scope.scripts ++
    ", children: " ++ Rendering.answer scope.children.isSome ++ " \x7d"

/-- How much a channel holds in its innermost buffer. -/
def channelSummary {depth : Nat} (channel : Channel (depth + 1)) : String :=
  "StringWriter \x7b buffered: " ++ toString channel.buffered ++ " \x7d"

/-- A component shows nothing of its steps. -/
def Component.summary (_ : Component) : String := "ComponentFn"

end Templating.Render

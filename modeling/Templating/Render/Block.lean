import Templating.Render.Stage

/-!
# Style and script blocks

Each style rule and each script function is written at most once in a tree of
components.  A block holds what is new in a list of classes or scripts; without
anything new there is no block.  Names are registered before the block is
written.
-/

namespace Templating.Render

/-- Adds named texts to a registry and joins those whose name is new. -/
def collectNew (registry : Registry) :
    List (String × String) → Registry × String
  | [] => (registry, "")
  | (name, text) :: rest =>
      if registry.contains name then
        collectNew registry rest
      else
        let (registry, joined) := collectNew (registry.insert name) rest
        (registry, text ++ joined)

open Rendering

/-- Writes one block around a text; nothing if the text is empty. -/
def writeBlock {depth : Nat} (opening text closing : String) :
    Rendering depth Unit := do
  if text.isEmpty then
    return
  else
    write opening
    write text
    write closing

/-- Registers classes and writes the rules of the new ones in one block. -/
def renderStyles {depth : Nat} (classes : List Style.Class) :
    Rendering depth Unit := do
  let scope ← scope
  let named :=
    (Style.styledClasses classes).map fun styled => (styled.id, styled.rule)
  let (registry, rules) := collectNew scope.writtenStyles named
  setScope { scope with styles := some registry }
  writeBlock "<style type=\"text/css\">" rules "</style>"

/-- Registers scripts and writes the functions of the new ones in one block. -/
def renderScripts {depth : Nat} (scripts : List Script) :
    Rendering depth Unit := do
  let scope ← scope
  let named := scripts.map fun script => (script.name, script.function)
  let (registry, functions) := collectNew scope.writtenScripts named
  setScope { scope with scripts := some registry }
  writeBlock "<script type=\"text/javascript\">" functions "</script>"

end Templating.Render

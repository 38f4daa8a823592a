import Templating.Render.Block

/-!
# Rendering components

The steps of a component run in order on a stage, and the first that fails ends
the component.  Children are looked up in the scope when they are run, so a
component can be its own child: such a component goes on until its sink is full.
The depth of children inside children is bounded, far beyond what a call stack
could hold.
-/

namespace Templating.Render

open Rendering

/-- A rendering at any depth of buffers. -/
abbrev Anywhere := (depth : Nat) → Rendering depth Unit

mutual

/-- Runs a step, given how children are run. -/
def runStep (runChildren : Component → Anywhere) : Step → Anywhere
  | .write text, _ => write text
  | .offer text, _ => offer text
  | .flush, _ => flush
  | .writeBuffered, _ => do report (toString (← buffered))
  | .styles classes, _ => renderStyles classes
  | .scripts scripts, _ => renderScripts scripts
  | .embed body, depth => runSteps runChildren body depth
  | .wrap body, depth => wrapped (runSteps runChildren body (depth + 1))
  | .children, depth => do runChildren (← scope).body depth
  | .dropChildren, _ => do
      let scope ← scope
      setScope { scope with children := none }
      report (answer scope.children.isSome)
  | .takeChildren, depth => do
      let scope ← scope
      setScope { scope with children := none }
      match scope.children with
      | some component => runChildren component depth
      | none => report "none"
  | .attach newChildren, _ => do
      setScope { ← scope with children := some newChildren }
  | .fork newChildren body, depth => do
      inScope { ← scope with children := some newChildren }
        (runSteps runChildren body depth)
  | .openRegistries, _ => do
      let scope ← scope
      setScope
        { scope with
          styles := some scope.writtenStyles
          scripts := some scope.writtenScripts }
  | .addStyle id, _ => do
      let scope ← scope
      setScope { scope with styles := some (scope.writtenStyles.insert id) }
      report (answer (!scope.writtenStyles.contains id))
  | .addScript name, _ => do
      let scope ← scope
      setScope { scope with scripts := some (scope.writtenScripts.insert name) }
      report (answer (!scope.writtenScripts.contains name))
  | .hasStyle id, _ => do
      match (← scope).styles with
      | some registry => report (answer (registry.contains id))
      | none => report "null"
  | .hasScript name, _ => do
      match (← scope).scripts with
      | some registry => report (answer (registry.contains name))
      | none => report "null"
  | .fail message, _ => throw (.failed message)

/-- Runs steps in order, given how children are run. -/
def runSteps (runChildren : Component → Anywhere) : List Step → Anywhere
  | [], _ => return
  | step :: rest, depth => do
      runStep runChildren step depth
      runSteps runChildren rest depth

end

/-- Runs a component whose children are nested at most `nesting` deep. -/
def Component.runWithin : (nesting : Nat) → Component → Anywhere
  | 0, _, _ => throw (.failed "children are nested too deeply")
  | nesting + 1, component, depth => runSteps (runWithin nesting) component depth

/-- How deep children may be nested inside children. -/
def maxNesting : Nat := 1048576

/-- Runs a component on a stage. -/
def Component.run (component : Component) : Anywhere :=
  component.runWithin maxNesting

/-- Runs one step on a stage. -/
def Step.run (step : Step) : Anywhere :=
  Component.run [step]

/-- Renders a component into a sink through a buffer. -/
def Component.render (component : Component) (scope : Scope) (sink : Sink) :
    Except OutputError Unit × Scope × Sink :=
  match component.run 0 ⟨scope, (Channel.sink sink).onTop⟩ with
  | .ok () after =>
      match Channel.flush 1 after.channel with
      | (result, channel) => (result, after.scope, channel.drop.bottom)
  | .error cause after => (.error cause, after.scope, after.channel.drop.bottom)

/-- Renders a component as the root of a new tree. -/
def Component.renderRoot (component : Component) (sink : Sink) :
    Except OutputError Unit × Sink :=
  let (result, _, sink) := component.render .empty sink
  (result, sink)

/-- The bytes that a component renders as the root of a new tree. -/
def Component.renderBytes (component : Component) : Except OutputError Bytes :=
  match component.renderRoot .unlimited with
  | (.ok (), sink) => .ok sink.bytes
  | (.error cause, _) => .error cause

end Templating.Render

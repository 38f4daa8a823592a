import Templating.Code.Statement
import Templating.Render.Block
import Templating.Render.Url

/-!
# Meanings of expressions

Nothing looks inside an expression, so what it does when the page is rendered
is a parameter.  A meaning says what comes of the expressions at each place
where a template may have one.  It sees an environment, which loops, conditions
and patterns extend, and a state of its own that may change with every use; it
may act on the stage and may fail.

Execution of generated code and rendering of a template are both computations
over a meaning.
-/

namespace Templating.Execution

open Render

/-- Computations on a stage with a state that only the expressions know. -/
abbrev Run (ω : Type) (depth : Nat) := StateT ω (Rendering depth)

/-- An address as an expression gives it. -/
inductive Address where
  | unchecked (text : String)
  /-- An address that was made safe or is trusted already. -/
  | safe (text : String)

/-- The address that is put on the page. -/
def Address.shown : Address → String
  | .unchecked text => safeUrl text
  | .safe text => text

/-- What expressions do, by the place where they stand. -/
structure Meaning (ω ε ν : Type) (depth : Nat) where
  /-- The text that is displayed. -/
  text : Expression → ε → Run ω depth String
  classes : Expression → ε → Run ω depth (List Style.Class)
  script : Expression → ε → Run ω depth Script
  address : Expression → ε → Run ω depth Address
  /-- Renders another component on the same stage. -/
  component : Expression → ε → Run ω depth Unit
  /-- The environments of the iterations of a loop. -/
  iterations : Expression → ε → Run ω depth (List ε)
  /-- The environment of the branch if the condition holds. -/
  condition : Expression → ε → Run ω depth (Option ε)
  subject : Expression → ε → Run ω depth ν
  /-- The environment of the arm if the pattern matches the value. -/
  matching : Expression → ν → ε → Run ω depth (Option ε)

section Actions

variable {ω : Type} {depth : Nat}

/-- Writes a text to the page. -/
def emit (text : String) : Run ω depth Unit :=
  StateT.lift (Rendering.write text)

/-- Puts the rules of classes on the page. -/
def emitStyles (classes : List Style.Class) : Run ω depth Unit :=
  StateT.lift (renderStyles classes)

/-- Puts the functions of scripts on the page. -/
def emitScripts (scripts : List Script) : Run ω depth Unit :=
  StateT.lift (renderScripts scripts)

/-- A step that no code can take. -/
def stuck {α : Type} : Run ω depth α :=
  StateT.lift (throw (.failed "stuck"))

end Actions

end Templating.Execution

import Templating.Template

/-!
# Statements of generated components

The body of a generated component is made of a few statement forms.  They bind
temporaries, write to the output, or group other statements in blocks.
Expressions of the template occur in them as they are.

One form stands for a place where no code can be given: a void element with
children.
-/

namespace Templating.Code

/-- A local name of the generated code. -/
structure Temporary where
  number : Nat
  deriving DecidableEq, Repr

/-- The name as it is written. -/
def Temporary.name (temporary : Temporary) : String :=
  "var_" ++ toString temporary.number

/-- A statement in the body of a generated component. -/
inductive Statement where
  | bindText (target : Temporary) (text : String)
  | bindClasses (target : Temporary) (value : Expression)
  | bindScript (target : Temporary) (value : Expression)
  | bindUrl (target : Temporary) (value : Expression)
  | writeText (text : String)
  | writeTemporary (source : Temporary)
  | writeEscaped (value : Expression)
  | writeEscapedTemporary (source : Temporary)
  /-- Writes the call of a script. -/
  | writeCall (source : Temporary)
  /-- Writes the rules of classes that are not on the page yet. -/
  | renderStyles (source : Temporary)
  /-- Writes the functions of scripts that are not on the page yet. -/
  | renderScripts (sources : List Temporary)
  | renderComponent (component : Expression)
  | loop (header : Expression) (body : List Statement)
  | conditional (condition : Expression) (thenBlock : List Statement)
      (elseBlock : Option (List Statement))
  /-- Exactly one arm runs; the fallback is the last. -/
  | choice (subject : Expression) (arms : List (Expression × List Statement))
      (fallback : Option (List Statement))
  /-- No code can be given for the element with this tag. -/
  | rejected (tag : String)

/-- A statement in the body of a generated style class. -/
inductive StyleStatement where
  /-- Adds a finished declaration. -/
  | pushText (declaration : String)
  /-- Adds a declaration that is made safe when the code runs. -/
  | pushComputed (name : String) (value : Expression)
  deriving DecidableEq, Repr

end Templating.Code

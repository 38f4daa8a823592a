import Templating.Position
import Templating.Markup.Tag

/-!
# Templates

A template file is a package name, imports and declarations: templates for
HTML, for a style class or for a script.  Code inside a template is an
expression: a verbatim snippet with the span it was read from.  Nothing here
looks inside an expression.
-/

namespace Templating

/-- A verbatim snippet of code and where it came from. -/
structure Expression where
  value : String
  span : Span
  deriving DecidableEq, Repr

instance : Inhabited Expression := ⟨⟨"", default⟩⟩

/-- An attribute of an element. -/
inductive Attribute where
  /-- Written `name="value"`. -/
  | constant (name value : String)
  /-- Written `name`: an attribute without a value. -/
  | flag (name : String)
  /-- Written `name={ value }`: the value is computed when the page is
  rendered. -/
  | computed (name : String) (value : Expression)
  /-- Written `name?={ condition }`: the attribute is there only if the
  condition holds. -/
  | conditional (name : String) (condition : Expression)
  deriving DecidableEq, Repr

namespace Attribute

def name : Attribute → String
  | .constant name _ => name
  | .flag name => name
  | .computed name _ => name
  | .conditional name _ => name

/-- Attributes such as `onclick` carry scripts. -/
def isHandlerName (name : String) : Bool :=
  "on".toList.isPrefixOf name.toList

end Attribute

/-- A node in the body of an HTML template. -/
inductive Node where
  | docType (value : String)
  /-- A void element has no closing tag and must not have children. -/
  | element (name : String) (isVoid : Bool) (attributes : List Attribute)
      (children : List Node)
  | text (value : String)
  /-- Blanks between nodes, which are never rendered. -/
  | whitespace (value : String)
  /-- The escaped value of an expression. -/
  | interpolation (value : Expression)
  /-- Children repeated under a loop header. -/
  | loop (header : Expression) (body : List Node)
  | conditional (condition : Expression) (thenBranch : List Node)
      (elseBranch : Option (List Node))
  /-- The first case whose pattern matches, or the fallback. -/
  | choice (subject : Expression) (cases : List (Expression × List Node))
      (fallback : Option (List Node))
  /-- Another component rendered in place. -/
  | call (component : Expression)

instance : Inhabited Node := ⟨.whitespace ""⟩

/-- An element that is void exactly if its tag is. -/
def Node.ofTag (name : String) (attributes : List Attribute)
    (children : List Node) : Node :=
  .element name (Markup.isVoidTag name) attributes children

/-- A template that compiles into a component. -/
structure HtmlTemplate where
  name : Expression
  parameters : Expression
  children : List Node

/-- A declaration of a style template. -/
inductive StyleProperty where
  | constant (name value : String)
  | computed (name : String) (value : Expression)
  deriving DecidableEq, Repr

/-- A template that compiles into a style class. -/
structure StyleTemplate where
  name : Expression
  parameters : Expression
  properties : List StyleProperty
  deriving DecidableEq, Repr

/-- A template that compiles into a named script function. -/
structure ScriptTemplate where
  name : Expression
  parameters : Expression
  body : String
  deriving DecidableEq, Repr

/-- A template at the top level of a file. -/
inductive Declaration where
  | html (template : HtmlTemplate)
  | style (template : StyleTemplate)
  | script (template : ScriptTemplate)

namespace Declaration

def name : Declaration → Expression
  | .html template => template.name
  | .style template => template.name
  | .script template => template.name

def isHtml : Declaration → Bool
  | .html _ => true
  | _ => false

def isStyle : Declaration → Bool
  | .style _ => true
  | _ => false

end Declaration

/-- One file of templates. -/
structure TemplateFile where
  package : Expression
  imports : List Expression
  declarations : List Declaration

namespace TemplateFile

def hasHtml (file : TemplateFile) : Bool :=
  file.declarations.any (·.isHtml)

def hasStyle (file : TemplateFile) : Bool :=
  file.declarations.any (·.isStyle)

end TemplateFile

end Templating

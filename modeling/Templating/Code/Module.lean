import Templating.Code.Layout
import Templating.Code.Lowering
import Templating.Code.Script
import Templating.Settings

/-!
# Generated modules

The lines of the module that a template file compiles into: a banner, the
module's opening with its imports, one function for each declaration, and the
end of the module.
-/

namespace Templating.Code

/-- The lints that generated code opts out of. -/
def lintDirective : String :=
  "#![allow(non_snake_case, unused_imports, unused_mut, unused_variables, clippy::all)]"

/-- A line that imports an item of the runtime library. -/
def runtimeImport (settings : Settings) (item : String) : Entry :=
  .of 1 [.words "use ", .verbatim settings.runtimePath, .words item]

/-- The banner and the line that opens the module. -/
def layoutBanner (file : TemplateFile) (settings : Settings) : List Entry :=
  [.of 0
      [.words "// Code generated by tempera@", .verbatim settings.bannerVersion,
        .words " DO NOT EDIT."],
    .line .blank,
    .of 0 [.words "pub mod ", .copied file.package, .words " \x7b"]]

/-- The lines in front of the functions of the module. -/
def layoutImports (file : TemplateFile) (settings : Settings) : List Entry :=
  [.plain 1 lintDirective, .line .blank,
    runtimeImport settings " as tempera;"] ++
  (if file.hasHtml then
    [runtimeImport settings "::RenderScope;", .plain 1 "use ::std::io;",
      runtimeImport settings "::StringWriter;"]
  else []) ++
  (if file.hasStyle then [runtimeImport settings "::CssBuilder;"] else []) ++
  file.imports.map fun path => .of 1 [.words "use ", .copied path, .words ";"]

/-- Banner, opening and imports. -/
def layoutHeader (file : TemplateFile) (settings : Settings) : List Entry :=
  layoutBanner file settings ++ layoutImports file settings

/-- The opening line of a function. -/
def layoutSignature (name parameters : Expression) (result : String) : Entry :=
  .of 1
    [.words "pub fn ", .copied name, .words "(", .copied parameters,
      .words (") -> " ++ result ++ " \x7b")]

/-- The line that ends a function. -/
@[simp]
def functionEnd : Entry := .plain 1 closingLine

/-! ## HTML templates -/

@[simp]
def htmlSignature (template : HtmlTemplate) : Entry :=
  layoutSignature template.name template.parameters "impl tempera::Component"

/-- The parameters of the closure that a component is made of. -/
def closureParameters : String :=
  "scope: &mut RenderScope, w: &mut StringWriter<'_>"

/-- The line that opens the closure. -/
@[simp]
def closureOpening : Entry :=
  .plain 2
    ("tempera::component(move |" ++ closureParameters ++
      "| -> io::Result<()> \x7b")

/-- The lines of the closure in front of the body. -/
@[simp]
def closureStart : List Entry :=
  [.plain 3 "scope.rendered_css_classes();",
    .plain 3 "scope.rendered_scripts();"]

@[simp]
def closureResult : Entry := .plain 3 "Ok(())"

@[simp]
def closureEnd : Entry := .plain 2 "\x7d)"

/-- The function of an HTML template. -/
def layoutHtml (template : HtmlTemplate) (body : List Statement) : List Entry :=
  htmlSignature template :: closureOpening :: closureStart ++
    layoutBlock 3 body ++ [closureResult, closureEnd, functionEnd]

/-! ## Style templates -/

@[simp]
def styleSignature (template : StyleTemplate) : Entry :=
  layoutSignature template.name template.parameters "tempera::ComponentCssClass"

/-- The lines that build a class. -/
def layoutBuilder (template : StyleTemplate) : List Entry :=
  .plain 2 "let mut css = CssBuilder::new();" ::
    (template.properties.map lowerProperty).map (layoutStyleStatement 2) ++
    [.of 2 [.words "css.finish(", .quoted template.name.value, .words ")"]]

/-- The function of a style template. -/
def layoutStyle (template : StyleTemplate) : List Entry :=
  styleSignature template :: layoutBuilder template ++ [functionEnd]

/-! ## Script templates -/

@[simp]
def scriptSignature (template : ScriptTemplate) : Entry :=
  layoutSignature template.name template.parameters "tempera::ComponentScript"

/-- The encoded arguments of a script's call, separated by commas. -/
def layoutArguments : List String → List Fragment
  | [] => []
  | [argument] => [.words "tempera::script_arg(&", .verbatim argument, .words ")"]
  | argument :: rest =>
      .words "tempera::script_arg(&" :: .verbatim argument :: .words "), " ::
        layoutArguments rest

/-- The line that opens the record of a script. -/
@[simp]
def recordOpening : Entry := .plain 2 "tempera::ComponentScript \x7b"

/-- The lines of the record. -/
def layoutRecord (template : ScriptTemplate) : List Entry :=
  [.of 3 [.words "name: ", .quoted template.functionName, .words ".into(),"],
    .of 3 [.words "function: ", .quoted template.functionSource,
      .words ".into(),"],
    .of 3
      ([.words "call: tempera::safe_script(", .quoted template.functionName,
        .words ", &["] ++ layoutArguments template.arguments ++ [.words "]),"])]

@[simp]
def recordEnd : Entry := .plain 2 closingLine

/-- The function of a script template. -/
def layoutScript (template : ScriptTemplate) : List Entry :=
  scriptSignature template :: recordOpening :: layoutRecord template ++
    [recordEnd, functionEnd]

/-! ## Modules -/

/-- The function of a declaration, behind a blank line. -/
def layoutDeclaration : Declaration → Supply (List Entry)
  | .html template => do
      let body ← lowerNodes template.children
      return .line .blank :: layoutHtml template body
  | .style template => return .line .blank :: layoutStyle template
  | .script template => return .line .blank :: layoutScript template

/-- The functions of declarations in order. -/
def layoutDeclarations : List Declaration → Supply (List Entry)
  | [] => return []
  | declaration :: rest => do
      let first ← layoutDeclaration declaration
      return first ++ (← layoutDeclarations rest)

/-- The lines of the module of a template file. -/
def layoutModule (file : TemplateFile) (settings : Settings) : List Entry :=
  let (functions, _) := (layoutDeclarations file.declarations 0).run
  layoutHeader file settings ++ functions ++ [.plain 0 closingLine]

end Templating.Code

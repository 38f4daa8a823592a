import Templating.Form.Node

/-!
# JSON form of template files

Declarations and style properties are tagged records, a file is a plain one.
Empty imports and declarations may be left out.
-/

namespace Templating

open Json (record required optional tagged decodeText decodeList)
open Json.Place (inItems inRecord needed)

namespace StyleProperty

/-- The tags of the two kinds. -/
def tags : List String := ["constant", "expression"]

def encode : StyleProperty → Json
  | .constant name value =>
      .object
        [("type", .text "constant"), ("name", .text name), ("value", .text value)]
  | .computed name value =>
      .object
        [("type", .text "expression"), ("name", .text name),
          ("value", value.encode)]

def decode (inside : Bool) (value : Json) : Except JsonFault StyleProperty := do
  match ← tagged tags inside value with
  | ("constant", content) =>
      let fields ← record ["name", "value"] content
      return .constant (← required fields "name" decodeText)
        (← required fields "value" decodeText)
  | (_, content) =>
      let fields ← record ["name", "value"] content
      return .computed (← required fields "name" decodeText)
        (← required fields "value" Expression.decode)

instance : JsonForm StyleProperty := ⟨encode, decode false, needed⟩

end StyleProperty

namespace Declaration

/-- The tags of the three kinds. -/
def tags : List String := ["html", "css", "script"]

def encode : Declaration → Json
  | .html template =>
      .object
        [("type", .text "html"), ("name", template.name.encode),
          ("parameters", template.parameters.encode),
          ("children", .array (Node.encodeAll template.children))]
  | .style template =>
      .object
        [("type", .text "css"), ("name", template.name.encode),
          ("parameters", template.parameters.encode),
          ("properties", .array (template.properties.map StyleProperty.encode))]
  | .script template =>
      .object
        [("type", .text "script"), ("name", template.name.encode),
          ("parameters", template.parameters.encode),
          ("body", .text template.body)]

def decode (value : Json) : Except JsonFault Declaration := do
  match ← tagged tags false value with
  | ("html", content) =>
      let fields ← record ["name", "parameters", "children"] content
      return .html
        ⟨← required fields "name" Expression.decode,
          ← required fields "parameters" Expression.decode,
          ← required fields "children" (decodeList (Node.decode true))⟩
  | ("css", content) =>
      let fields ← record ["name", "parameters", "properties"] content
      return .style
        ⟨← required fields "name" Expression.decode,
          ← required fields "parameters" Expression.decode,
          ← required fields "properties" (decodeList (StyleProperty.decode true))⟩
  | (_, content) =>
      let fields ← record ["name", "parameters", "body"] content
      return .script
        ⟨← required fields "name" Expression.decode,
          ← required fields "parameters" Expression.decode,
          ← required fields "body" decodeText⟩

instance : JsonForm Declaration := ⟨encode, decode, needed⟩

end Declaration

namespace TemplateFile

def encode (file : TemplateFile) : Json :=
  .object
    [("package", file.package.encode),
      ("imports", .array (file.imports.map Expression.encode)),
      ("declarations", .array (file.declarations.map Declaration.encode))]

def decode (value : Json) : Except JsonFault TemplateFile := do
  let fields ← record ["package", "imports", "declarations"] value
  return ⟨← required fields "package" Expression.decode,
    ← optional fields "imports" [] (decodeList Expression.decode),
    ← optional fields "declarations" [] (decodeList Declaration.decode)⟩

def passesOver : Json.Place → Bool :=
  inRecord
    [("package", Expression.passesOver),
      ("imports", inItems Expression.passesOver), ("declarations", needed)]

instance : JsonForm TemplateFile := ⟨encode, decode, passesOver⟩

end TemplateFile

end Templating

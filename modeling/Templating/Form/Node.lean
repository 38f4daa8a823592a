import Templating.Form.Position

/-!
# JSON form of nodes

Attributes and nodes are tagged records.  Empty attributes and children of an
element may be left out, and so may the branches that a node need not have;
such a branch is written as `null`.
-/

namespace Templating

open Json (record required optional tagged decodeText decodeBoolean decodeList
  decodeOption)
open Json.Place (needed)

namespace Attribute

/-- The tags of the four kinds. -/
def tags : List String :=
  ["constant", "boolConstant", "expression", "boolExpression"]

def encode : Attribute → Json
  | .constant name value =>
      .object
        [("type", .text "constant"), ("name", .text name), ("value", .text value)]
  | .flag name =>
      .object [("type", .text "boolConstant"), ("name", .text name)]
  | .computed name value =>
      .object
        [("type", .text "expression"), ("name", .text name),
          ("expression", value.encode)]
  | .conditional name condition =>
      .object
        [("type", .text "boolExpression"), ("name", .text name),
          ("expression", condition.encode)]

def decode (inside : Bool) (value : Json) : Except JsonFault Attribute := do
  match ← tagged tags inside value with
  | ("constant", content) =>
      let fields ← record ["name", "value"] content
      return .constant (← required fields "name" decodeText)
        (← required fields "value" decodeText)
  | ("boolConstant", content) =>
      let fields ← record ["name"] content
      return .flag (← required fields "name" decodeText)
  | ("expression", content) =>
      let fields ← record ["name", "expression"] content
      return .computed (← required fields "name" decodeText)
        (← required fields "expression" Expression.decode)
  | (_, content) =>
      let fields ← record ["name", "expression"] content
      return .conditional (← required fields "name" decodeText)
        (← required fields "expression" Expression.decode)

instance : JsonForm Attribute := ⟨encode, decode false, needed⟩

end Attribute

namespace Node

/-- The tags of the nine kinds. -/
def tags : List String :=
  ["docType", "element", "text", "whitespace", "stringExpression", "for", "if",
    "switch", "callTemplate"]

mutual

def encode : Node → Json
  | .docType value =>
      .object [("type", .text "docType"), ("value", .text value)]
  | .element name isVoid attributes children =>
      .object
        [("type", .text "element"), ("name", .text name),
          ("void", .boolean isVoid),
          ("attributes", .array (attributes.map Attribute.encode)),
          ("children", .array (encodeAll children))]
  | .text value =>
      .object [("type", .text "text"), ("value", .text value)]
  | .whitespace value =>
      .object [("type", .text "whitespace"), ("value", .text value)]
  | .interpolation value =>
      .object [("type", .text "stringExpression"), ("expression", value.encode)]
  | .loop header body =>
      .object
        [("type", .text "for"), ("expression", header.encode),
          ("children", .array (encodeAll body))]
  | .conditional condition thenBranch elseBranch =>
      .object
        [("type", .text "if"), ("expression", condition.encode),
          ("then", .array (encodeAll thenBranch)),
          ("else_branch", encodeBranch elseBranch)]
  | .choice subject cases fallback =>
      .object
        [("type", .text "switch"), ("expression", subject.encode),
          ("cases", .array (encodeCases cases)),
          ("default", encodeBranch fallback)]
  | .call component =>
      .object [("type", .text "callTemplate"), ("expression", component.encode)]

def encodeAll : List Node → List Json
  | [] => []
  | node :: rest => encode node :: encodeAll rest

/-- A branch that may be missing. -/
def encodeBranch : Option (List Node) → Json
  | none => .null
  | some nodes => .array (encodeAll nodes)

def encodeCases : List (Expression × List Node) → List Json
  | [] => []
  | (pattern, body) :: rest =>
      .object
          [("expression", pattern.encode), ("children", .array (encodeAll body))]
        :: encodeCases rest

end

/-- One case of a choice, given how a node is read. -/
def decodeCase (decodeNode : Json → Except JsonFault Node) (value : Json) :
    Except JsonFault (Expression × List Node) := do
  let fields ← record ["expression", "children"] value
  return (← required fields "expression" Expression.decode,
    ← required fields "children" (decodeList decodeNode))

/-- The node of a value with fewer levels than `levels`. -/
def decodeWithin : (levels : Nat) → (inside : Bool) → Json → Except JsonFault Node
  | 0, _, _ => .error .mismatched
  | levels + 1, inside, value => do
      let nodes := decodeList (decodeWithin levels true)
      match ← tagged tags inside value with
      | ("docType", content) =>
          let fields ← record ["value"] content
          return .docType (← required fields "value" decodeText)
      | ("element", content) =>
          let fields ← record ["name", "void", "attributes", "children"] content
          return .element (← required fields "name" decodeText)
            (← required fields "void" decodeBoolean)
            (← optional fields "attributes" []
              (decodeList (Attribute.decode true)))
            (← optional fields "children" [] nodes)
      | ("text", content) =>
          let fields ← record ["value"] content
          return .text (← required fields "value" decodeText)
      | ("whitespace", content) =>
          let fields ← record ["value"] content
          return .whitespace (← required fields "value" decodeText)
      | ("stringExpression", content) =>
          let fields ← record ["expression"] content
          return .interpolation (← required fields "expression" Expression.decode)
      | ("for", content) =>
          let fields ← record ["expression", "children"] content
          return .loop (← required fields "expression" Expression.decode)
            (← required fields "children" nodes)
      | ("if", content) =>
          let fields ← record ["expression", "then", "else_branch"] content
          return .conditional (← required fields "expression" Expression.decode)
            (← required fields "then" nodes)
            (← optional fields "else_branch" none (decodeOption nodes))
      | ("switch", content) =>
          let fields ← record ["expression", "cases", "default"] content
          return .choice (← required fields "expression" Expression.decode)
            (← required fields "cases"
              (decodeList (decodeCase (decodeWithin levels true))))
            (← optional fields "default" none (decodeOption nodes))
      | (_, content) =>
          let fields ← record ["expression"] content
          return .call (← required fields "expression" Expression.decode)

def decode (inside : Bool) (value : Json) : Except JsonFault Node :=
  decodeWithin (value.levels + 1) inside value

instance : JsonForm Node := ⟨encode, decode false, needed⟩

end Node

end Templating

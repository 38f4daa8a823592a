import Templating.Code.Statement
import Templating.Markup.Escape
import Templating.Style.Declaration

/-!
# From templates to statements

Every node becomes a run of statements.  Temporaries are numbered through a
whole file, so no two of them share a name.

The class list and the event handlers of an element need their rules and
functions on the page before its tag.  Their expressions are bound first, in
the order of the attributes, and the attributes are written from the bindings.
-/

namespace Templating.Code

/-- Computations that take fresh temporaries; the state is the last number. -/
abbrev Supply := StateM Nat

/-- A temporary that was not used before. -/
def fresh : Supply Temporary :=
  modifyGet fun last => (⟨last + 1⟩, last + 1)

/-- An attribute whose expression, where that is needed, is bound already. -/
inductive PreparedAttribute where
  | direct (item : Attribute)
  | classList (name : String) (source : Temporary)
  | handler (name : String) (source : Temporary)

/-- Binds the expression of an attribute that needs it. -/
def prepareAttribute :
    Attribute → Supply (List Statement × PreparedAttribute)
  | .computed name value => do
      if name = "class" then
        let target ← fresh
        return ([.bindClasses target value, .renderStyles target],
          .classList name target)
      else if Attribute.isHandlerName name then
        let target ← fresh
        return ([.bindScript target value], .handler name target)
      else
        return ([], .direct (.computed name value))
  | item => return ([], .direct item)

/-- Binds the expressions of all attributes that need it. -/
def prepareAttributes :
    List Attribute → Supply (List Statement × List PreparedAttribute)
  | [] => return ([], [])
  | item :: rest => do
      let (bindings, prepared) ← prepareAttribute item
      let (moreBindings, morePrepared) ← prepareAttributes rest
      return (bindings ++ moreBindings, prepared :: morePrepared)

/-- The temporaries that event handlers are bound to. -/
def handlerSources (attributes : List PreparedAttribute) : List Temporary :=
  attributes.filterMap fun
    | .handler _ source => some source
    | _ => none

/-- Puts the functions of bound event handlers on the page. -/
def renderHandlers (attributes : List PreparedAttribute) : List Statement :=
  let sources := handlerSources attributes
  if sources.isEmpty then [] else [.renderScripts sources]

/-- An attribute with a value that the statements between its quotes write. -/
def quotedAttribute (name : String) (value : List Statement) : List Statement :=
  .writeText (" " ++ name ++ "=\"") :: value ++ [.writeText "\""]

/-- Writes one attribute of an element with the given tag. -/
def lowerAttribute (tag : String) : PreparedAttribute → Supply (List Statement)
  | .direct (.flag name) => return [.writeText (" " ++ name)]
  | .direct (.constant name value) =>
      return [.writeText (" " ++ name ++ "=\"" ++ Markup.escape value ++ "\"")]
  | .direct (.conditional name condition) =>
      return [.conditional condition [.writeText (" " ++ name)] none]
  | .direct (.computed name value) => do
      if tag = "a" && name = "href" then
        let target ← fresh
        return quotedAttribute name
          [.bindUrl target value, .writeEscapedTemporary target]
      else
        return quotedAttribute name [.writeEscaped value]
  | .classList name source =>
      return quotedAttribute name [.writeEscapedTemporary source]
  | .handler name source => return quotedAttribute name [.writeCall source]

/-- Writes all attributes of an element with the given tag. -/
def lowerAttributes (tag : String) :
    List PreparedAttribute → Supply (List Statement)
  | [] => return []
  | item :: rest => do
      let first ← lowerAttribute tag item
      return first ++ (← lowerAttributes tag rest)

/-- Writes the opening tag of an element. -/
def lowerOpening (tag : String) (attributes : List Attribute) :
    Supply (List Statement) := do
  if attributes.isEmpty then
    return [.writeText ("<" ++ tag ++ ">")]
  else
    let (bindings, prepared) ← prepareAttributes attributes
    let written ← lowerAttributes tag prepared
    return bindings ++ renderHandlers prepared ++
      [.writeText ("<" ++ tag)] ++ written ++ [.writeText ">"]

mutual

/-- The statements of a node. -/
def lowerNode : Node → Supply (List Statement)
  | .docType value => return [.writeText ("<!doctype " ++ value ++ ">")]
  | .element tag isVoid attributes children => do
      if isVoid && !children.isEmpty then
        return [.rejected tag]
      else
        let opening ← lowerOpening tag attributes
        if isVoid then
          return opening
        else
          let body ← lowerNodes children
          return opening ++ body ++ [.writeText ("</" ++ tag ++ ">")]
  | .text value => do
      let target ← fresh
      return [.bindText target value, .writeTemporary target]
  | .whitespace _ => return []
  | .interpolation value => return [.writeEscaped value]
  | .loop header body => return [.loop header (← lowerNodes body)]
  | .conditional condition thenBranch elseBranch => do
      let thenBlock ← lowerNodes thenBranch
      return [.conditional condition thenBlock (← lowerBranch elseBranch)]
  | .choice subject cases fallback => do
      let arms ← lowerCases cases
      return [.choice subject arms (← lowerBranch fallback)]
  | .call component => return [.renderComponent component]

/-- The statements of nodes in order. -/
def lowerNodes : List Node → Supply (List Statement)
  | [] => return []
  | node :: rest => do
      let first ← lowerNode node
      return first ++ (← lowerNodes rest)

/-- The block of a branch that may be missing. -/
def lowerBranch : Option (List Node) → Supply (Option (List Statement))
  | none => return none
  | some nodes => return some (← lowerNodes nodes)

def lowerCases :
    List (Expression × List Node) → Supply (List (Expression × List Statement))
  | [] => return []
  | (pattern, body) :: rest => do
      let block ← lowerNodes body
      return (pattern, block) :: (← lowerCases rest)

end

/-- The statement that adds a property. -/
def lowerProperty : StyleProperty → StyleStatement
  | .constant name value => .pushText (Style.declaration name value)
  | .computed name value => .pushComputed (Text.trimmed name) value

end Templating.Code

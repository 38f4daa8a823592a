import Templating.Markup.Escape
import Templating.Proofs.Execution.Meaning

/-!
# Rendering of templates

What a template means, without a detour through statements.  An element puts
the rules of its classes and the functions of its event handlers on the page
ahead of its tag; for that the expressions of these attributes are used first,
in order, and each only once.
-/

namespace Templating.Execution

open Render

/-- An attribute whose expression, where that is needed, was used already. -/
inductive ReadyAttribute where
  | direct (item : Attribute)
  | classList (name : String) (classes : List Style.Class)
  | handler (name : String) (script : Script)

/-- The scripts of event handlers. -/
def handlerScripts (attributes : List ReadyAttribute) : List Script :=
  attributes.filterMap fun
    | .handler _ script => some script
    | _ => none

section Rendering

variable {ω ε ν : Type} {depth : Nat} (meaning : Meaning ω ε ν depth)

/-- Uses the expression of an attribute that needs it ahead of the tag; the
rules of classes are put on the page at once. -/
def readyAttribute : Attribute → ε → Run ω depth ReadyAttribute
  | .computed name value, environment =>
      if name = "class" then do
        let classes ← meaning.classes value environment
        emitStyles classes
        return .classList name classes
      else if Attribute.isHandlerName name then do
        let script ← meaning.script value environment
        return .handler name script
      else
        return .direct (.computed name value)
  | item, _ => return .direct item

def readyAttributes : List Attribute → ε → Run ω depth (List ReadyAttribute)
  | [], _ => return []
  | item :: rest, environment => do
      let ready ← readyAttribute meaning item environment
      return ready :: (← readyAttributes rest environment)

/-- Puts the functions of event handlers on the page, if there are any. -/
def renderHandlerScripts (attributes : List ReadyAttribute) :
    Run ω depth Unit :=
  if (handlerScripts attributes).isEmpty then
    return
  else
    emitScripts (handlerScripts attributes)

/-- An attribute with its value between quotes. -/
def renderQuoted (name : String) (value : Run ω depth Unit) :
    Run ω depth Unit := do
  emit (" " ++ name ++ "=\"")
  value
  emit "\""

/-- Renders an attribute of an element with the given tag. -/
def renderAttribute (tag : String) : ReadyAttribute → ε → Run ω depth Unit
  | .direct (.flag name), _ => emit (" " ++ name)
  | .direct (.constant name value), _ =>
      emit (" " ++ name ++ "=\"" ++ Markup.escape value ++ "\"")
  | .direct (.conditional name condition), environment => do
      match ← meaning.condition condition environment with
      | some _ => emit (" " ++ name)
      | none => return
  | .direct (.computed name value), environment =>
      if tag = "a" && name = "href" then
        renderQuoted name do
          let address ← meaning.address value environment
          emit (Markup.escape address.shown)
      else
        renderQuoted name do
          emit (Markup.escape (← meaning.text value environment))
  | .classList name classes, _ =>
      renderQuoted name (emit (Markup.escape (Style.attributeValue classes)))
  | .handler name script, _ => renderQuoted name (emit script.call)

def renderAttributes (tag : String) : List ReadyAttribute → ε → Run ω depth Unit
  | [], _ => return
  | item :: rest, environment => do
      renderAttribute meaning tag item environment
      renderAttributes tag rest environment

/-- Renders the opening tag of an element and what has to come before it. -/
def renderOpening (tag : String) :
    List Attribute → ε → Run ω depth Unit
  | [], _ => emit ("<" ++ tag ++ ">")
  | item :: rest, environment => do
      let ready ← readyAttributes meaning (item :: rest) environment
      renderHandlerScripts ready
      emit ("<" ++ tag)
      renderAttributes meaning tag ready environment
      emit ">"

mutual

/-- Renders a node. -/
def renderNode : Node → ε → Run ω depth Unit
  | .docType value, _ => emit ("<!doctype " ++ value ++ ">")
  | .element tag isVoid attributes children, environment => do
      renderOpening meaning tag attributes environment
      if isVoid then
        return
      else
        renderNodes children environment
        emit ("</" ++ tag ++ ">")
  | .text value, _ => emit value
  | .whitespace _, _ => return
  | .interpolation value, environment => do
      emit (Markup.escape (← meaning.text value environment))
  | .loop header body, environment => do
      let iterations ← meaning.iterations header environment
      iterations.forM fun inner => renderNodes body inner
  | .conditional condition thenBranch elseBranch, environment => do
      match ← meaning.condition condition environment with
      | some inner => renderNodes thenBranch inner
      | none => renderBranch elseBranch environment
  | .choice subject cases fallback, environment => do
      let value ← meaning.subject subject environment
      renderCases cases value environment (renderBranch fallback environment)
  | .call component, environment => meaning.component component environment

/-- Renders nodes in order. -/
def renderNodes : List Node → ε → Run ω depth Unit
  | [], _ => return
  | node :: rest, environment => do
      renderNode node environment
      renderNodes rest environment

/-- Renders a branch that may be missing. -/
def renderBranch : Option (List Node) → ε → Run ω depth Unit
  | none, _ => return
  | some nodes, environment => renderNodes nodes environment

/-- Renders the first case whose pattern matches. -/
def renderCases : List (Expression × List Node) → ν → ε →
    Run ω depth Unit → Run ω depth Unit
  | [], _, _, otherwise => otherwise
  | (pattern, body) :: rest, value, environment, otherwise => do
      match ← meaning.matching pattern value environment with
      | some inner => renderNodes body inner
      | none => renderCases rest value environment otherwise

end

end Rendering

end Templating.Execution

import Templating.Render.Registry
import Templating.Render.Script
import Templating.Style.Class

/-!
# Components and scopes

A component is a list of steps that run in order.

The scope belongs to a whole tree of components.  It keeps which style rules
and script functions were written, so that each is written once, and it may
carry children: a component for a layout to render in its body.  A registry
exists from its first use on.
-/

namespace Templating.Render

/-- One step of a component. -/
inductive Step where
  | write (text : String)
  /-- Writes a text once; what the channel does not take of it is lost. -/
  | offer (text : String)
  | flush
  /-- Writes the number of buffered bytes in brackets. -/
  | writeBuffered
  /-- Writes the rules of classes that were not written yet. -/
  | styles (classes : List Style.Class)
  /-- Writes the functions of scripts that were not written yet. -/
  | scripts (scripts : List Script)
  /-- Runs steps on the same channel. -/
  | embed (body : List Step)
  /-- Runs steps on a buffer of their own. -/
  | wrap (body : List Step)
  /-- Runs the children of the scope. -/
  | children
  /-- Takes the children away and writes whether there were any. -/
  | dropChildren
  /-- Takes the children away and runs them, or writes that there are none. -/
  | takeChildren
  /-- Gives the scope new children. -/
  | attach (newChildren : List Step)
  /-- Runs steps in a copy of the scope that has other children. -/
  | fork (newChildren body : List Step)
  /-- Creates both registries. -/
  | openRegistries
  /-- Registers a class and writes whether it is new. -/
  | addStyle (id : String)
  /-- Registers a script and writes whether it is new. -/
  | addScript (name : String)
  /-- Writes whether a class is registered. -/
  | hasStyle (id : String)
  /-- Writes whether a script is registered. -/
  | hasScript (name : String)
  | fail (message : String)

instance : Inhabited Step := ⟨.flush⟩

/-- Steps to run in order. -/
abbrev Component := List Step

/-- What a tree of components shares. -/
structure Scope where
  /-- The classes whose rules were written. -/
  styles : Option Registry := none
  /-- The scripts whose functions were written. -/
  scripts : Option Registry := none
  children : Option Component := none

namespace Scope

def empty : Scope := ⟨none, none, none⟩

instance : Inhabited Scope := ⟨empty⟩

/-- A scope in which the rules of some classes need not be written. -/
def withStyles (ids : List String) : Scope :=
  { empty with styles := some (.ofList ids) }

/-- The written classes; none if there is no registry yet. -/
def writtenStyles (scope : Scope) : Registry :=
  scope.styles.getD .empty

/-- The written scripts; none if there is no registry yet. -/
def writtenScripts (scope : Scope) : Registry :=
  scope.scripts.getD .empty

/-- The children; a component without steps if there are none. -/
def body (scope : Scope) : Component :=
  scope.children.getD []

end Scope

end Templating.Render

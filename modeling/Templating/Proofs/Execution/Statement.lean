import Templating.Markup.Escape
import Templating.Proofs.Execution.Meaning

/-!
# Execution of statements

Statements run in order and hand the bindings on to the statements behind them.
The statements of a block see the bindings around it; its own bindings end with
it.  A statement that reads a temporary which is not bound, or not to a value
of the right kind, is stuck.
-/

namespace Templating.Execution

open Code

/-- The value of a temporary. -/
inductive Bound where
  | text (value : String)
  | classes (value : List Style.Class)
  | script (value : Render.Script)
  | address (value : String)

namespace Bound

def text? : Bound → Option String
  | .text value => some value
  | _ => none

def classes? : Bound → Option (List Style.Class)
  | .classes value => some value
  | _ => none

def script? : Bound → Option Render.Script
  | .script value => some value
  | _ => none

/-- The text of a value that can be displayed. -/
def shown? : Bound → Option String
  | .text value => some value
  | .classes value => some (Style.attributeValue value)
  | .script _ => none
  | .address value => some value

end Bound

/-- What temporaries are bound to. -/
def Store := Temporary → Option Bound

namespace Store

def set (store : Store) (target : Temporary) (value : Bound) : Store :=
  fun other => if other = target then some value else store other

theorem set_same (store : Store) (target : Temporary) (value : Bound) :
    store.set target value target = some value :=
  if_pos rfl

theorem set_other {store : Store} {target other : Temporary} {value : Bound}
    (different : other ≠ target) : store.set target value other = store other :=
  if_neg different

variable {ω : Type} {depth : Nat}

/-- The value of a temporary that has to be of some kind. -/
def read {α : Type} (store : Store) (kind : Bound → Option α)
    (source : Temporary) : Run ω depth α :=
  match (store source).bind kind with
  | some value => pure value
  | none => stuck

theorem read_eq {α : Type} {store : Store} {kind : Bound → Option α}
    {source : Temporary} {value : α}
    (found : (store source).bind kind = some value) :
    (store.read kind source : Run ω depth α) = pure value := by
  rw [read, found]

/-- The scripts that temporaries are bound to, in order. -/
def readScripts (store : Store) :
    List Temporary → Run ω depth (List Render.Script)
  | [] => return []
  | source :: rest => do
      let script ← store.read Bound.script? source
      return script :: (← store.readScripts rest)

end Store

section Execution

variable {ω ε ν : Type} {depth : Nat} (meaning : Meaning ω ε ν depth)

mutual

/-- Runs a statement and gives the bindings for the statements behind it. -/
def execStatement : Statement → ε → Store → Run ω depth Store
  | .bindText target text, _, store => return store.set target (.text text)
  | .bindClasses target value, environment, store => do
      let classes ← meaning.classes value environment
      return store.set target (.classes classes)
  | .bindScript target value, environment, store => do
      let script ← meaning.script value environment
      return store.set target (.script script)
  | .bindUrl target value, environment, store => do
      let address ← meaning.address value environment
      return store.set target (.address address.shown)
  | .writeText text, _, store => do
      emit text
      return store
  | .writeTemporary source, _, store => do
      emit (← store.read Bound.text? source)
      return store
  | .writeEscaped value, environment, store => do
      emit (Markup.escape (← meaning.text value environment))
      return store
  | .writeEscapedTemporary source, _, store => do
      emit (Markup.escape (← store.read Bound.shown? source))
      return store
  | .writeCall source, _, store => do
      let script ← store.read Bound.script? source
      emit script.call
      return store
  | .renderStyles source, _, store => do
      emitStyles (← store.read Bound.classes? source)
      return store
  | .renderScripts sources, _, store => do
      emitScripts (← store.readScripts sources)
      return store
  | .renderComponent component, environment, store => do
      meaning.component component environment
      return store
  | .loop header body, environment, store => do
      let iterations ← meaning.iterations header environment
      iterations.forM fun inner => execBlock body inner store
      return store
  | .conditional condition thenBlock elseBlock, environment, store => do
      match ← meaning.condition condition environment with
      | some inner => execBlock thenBlock inner store
      | none => execElse elseBlock environment store
      return store
  | .choice subject arms fallback, environment, store => do
      let value ← meaning.subject subject environment
      execArms arms value environment store
        (execElse fallback environment store)
      return store
  | .rejected _, _, _ => stuck

/-- Runs the statements of a block; their bindings end with it. -/
def execBlock : List Statement → ε → Store → Run ω depth Unit
  | [], _, _ => return
  | statement :: rest, environment, store => do
      let store ← execStatement statement environment store
      execBlock rest environment store

/-- Runs a block that may be missing. -/
def execElse : Option (List Statement) → ε → Store → Run ω depth Unit
  | none, _, _ => return
  | some block, environment, store => execBlock block environment store

/-- Runs the block of the first arm whose pattern matches. -/
def execArms : List (Expression × List Statement) → ν → ε → Store →
    Run ω depth Unit → Run ω depth Unit
  | [], _, _, _, otherwise => otherwise
  | (pattern, block) :: rest, value, environment, store, otherwise => do
      match ← meaning.matching pattern value environment with
      | some inner => execBlock block inner store
      | none => execArms rest value environment store otherwise

end

@[simp]
theorem execBlock_nil (environment : ε) (store : Store) :
    execBlock meaning [] environment store = pure () := by
  rw [execBlock]

@[simp]
theorem execBlock_cons (statement : Statement) (rest : List Statement)
    (environment : ε) (store : Store) :
    execBlock meaning (statement :: rest) environment store =
      execStatement meaning statement environment store >>= fun store =>
        execBlock meaning rest environment store := by
  rw [execBlock]

/-- Statements that do the same with any bindings run behind others as they
run alone. -/
theorem execBlock_append_of {meaning : Meaning ω ε ν depth}
    {front behind : List Statement} {environment : ε}
    {second : Run ω depth Unit}
    (same : ∀ store, execBlock meaning behind environment store = second)
    (store : Store) :
    execBlock meaning (front ++ behind) environment store =
      execBlock meaning front environment store >>= fun _ => second := by
  induction front generalizing store with
  | nil => simp [same]
  | cons statement rest inductionHypothesis =>
      simp only [List.cons_append, execBlock_cons, bind_assoc,
        inductionHypothesis]

/-- A text is written with any bindings. -/
theorem execBlock_writeText (text : String) (rest : List Statement)
    (environment : ε) (store : Store) :
    execBlock meaning (.writeText text :: rest) environment store =
      emit text >>= fun _ => execBlock meaning rest environment store := by
  rw [execBlock_cons, execStatement, bind_assoc]
  simp only [pure_bind]

end Execution

end Templating.Execution

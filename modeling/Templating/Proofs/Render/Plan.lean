import Templating.Proofs.Output.Shortage
import Templating.Proofs.Render.Effect

/-!
# Plans

What a component does to its channel is a sequence of operations: writes,
flushes, and buffers that are put on top and taken away again.  A plan is this
sequence.  It depends on the scope that the component starts in, and on the
channel only where a component asks how much is buffered.

A plan is made with the plan of what follows at hand, so nested components leave
no nesting behind.  To render a component is to execute its plan.
-/

namespace Templating

/-- The sink below all buffers when these are dropped, the innermost first. -/
def Channel.dropAll : {depth : Nat} → Channel depth → Sink
  | 0, .sink target => target
  | _ + 1, channel => channel.drop.dropAll

theorem Channel.dropAll_eq (channel : Channel 0) :
    channel.dropAll = channel.bottom := by
  cases channel with
  | sink target => rfl

namespace Render

/-- What is left of a run above `depth` buffers. -/
inductive Plan : (depth : Nat) → Type where
  | done : Plan 0
  | fail {depth : Nat} (cause : OutputError) : Plan depth
  /-- Delivers bytes. -/
  | write {depth : Nat} (data : Bytes) (next : Plan (depth + 1)) :
      Plan (depth + 1)
  /-- Writes bytes once; what is not taken of them is lost. -/
  | offer {depth : Nat} (data : Bytes) (next : Plan (depth + 1)) :
      Plan (depth + 1)
  | flush {depth : Nat} (next : Plan (depth + 1)) : Plan (depth + 1)
  /-- Asks how much the innermost buffer holds. -/
  | measure {depth : Nat} (next : Nat → Plan (depth + 1)) : Plan (depth + 1)
  /-- Puts a buffer on top. -/
  | enter {depth : Nat} (next : Plan (depth + 1)) : Plan depth
  /-- Flushes the innermost buffer and takes it away. -/
  | leave {depth : Nat} (next : Plan depth) : Plan (depth + 1)

namespace Plan

/-- What comes after an operation.  If it failed, all buffers are dropped. -/
def proceed {depth : Nat}
    (next : Channel depth → Except OutputError Unit × Sink) :
    Except OutputError Unit × Channel depth → Except OutputError Unit × Sink
  | (.ok _, channel) => next channel
  | (.error cause, channel) => (.error cause, channel.dropAll)

/-- Executes a plan up to the first operation that fails. -/
def execute : {depth : Nat} → Plan depth → Channel depth →
    Except OutputError Unit × Sink
  | _, .done, channel => (.ok (), channel.bottom)
  | _, .fail cause, channel => (.error cause, channel.dropAll)
  | depth + 1, .write data next, channel =>
      proceed next.execute (Channel.writeAll (depth + 1) channel data)
  | depth + 1, .offer data next, channel =>
      let (result, channel) := Channel.write (depth + 1) channel data
      proceed next.execute (result.map fun _ => (), channel)
  | depth + 1, .flush next, channel =>
      proceed next.execute (Channel.flush (depth + 1) channel)
  | _ + 1, .measure next, channel => (next channel.buffered).execute channel
  | _, .enter next, channel => next.execute channel.onTop
  | depth + 1, .leave next, channel =>
      let (result, channel) := Channel.flush (depth + 1) channel
      proceed next.execute (result, channel.drop)

/-- Delivers texts in order. -/
def writes {depth : Nat} (texts : List String) (next : Plan (depth + 1)) :
    Plan (depth + 1) :=
  texts.foldr (fun text next => .write (Text.bytes text) next) next

end Plan

/-- A plan, given the scope to start in and the plan of what follows for the
scope that is left behind. -/
abbrev Planned :=
  (depth : Nat) → Scope → (Scope → Plan (depth + 1)) → Plan (depth + 1)

mutual

/-- The plan of a step, given the plans of children. -/
def planStep (planChildren : Component → Planned) : Step → Planned
  | .offer text, _, scope, next => .offer (Text.bytes text) (next scope)
  | .flush, _, scope, next => .flush (next scope)
  | .embed body, depth, scope, next =>
      planSteps planChildren body depth scope next
  | .wrap body, depth, scope, next =>
      .enter <| planSteps planChildren body (depth + 1) scope fun scope =>
        .leave (next scope)
  | .children, depth, scope, next => planChildren scope.body depth scope next
  | .takeChildren, depth, scope, next =>
      match scope.children with
      | some component =>
          planChildren component depth { scope with children := none } next
      | none =>
          .write (Text.bytes (bracketed "none"))
            (next { scope with children := none })
  | .fork newChildren body, depth, scope, next =>
      planSteps planChildren body depth
        { scope with children := some newChildren } fun _ => next scope
  | .fail message, _, _, _ => .fail (.failed message)
  | step, _, scope, next =>
      .measure fun buffered =>
        .writes (step.texts scope buffered) (next (step.scopeAfter scope))

/-- The plan of steps in order, given the plans of children. -/
def planSteps (planChildren : Component → Planned) : List Step → Planned
  | [], _, scope, next => next scope
  | step :: rest, depth, scope, next =>
      planStep planChildren step depth scope fun scope =>
        planSteps planChildren rest depth scope next

end

/-- The plan of a component whose children are nested at most `nesting`
deep. -/
def planWithin : (nesting : Nat) → Component → Planned
  | 0, _, _, _, _ => .fail (.failed "children are nested too deeply")
  | nesting + 1, component, depth, scope, next =>
      planSteps (planWithin nesting) component depth scope next

/-- The plan of a component that is rendered in a scope through a buffer of its
own. -/
def Component.plan (component : Component) (scope : Scope) : Plan 0 :=
  .enter (planWithin maxNesting component 0 scope fun _ => .leave .done)

/-! ## Rendering executes the plan -/

open Rendering

variable {depth : Nat}

/-- What becomes of a run that has come to an end, given the plan of what
follows. -/
def resume (next : Scope → Plan (depth + 1)) :
    EStateM.Result OutputError (Stage depth) Unit →
      Except OutputError Unit × Sink
  | .ok _ after => (next after.scope).execute after.channel
  | .error cause after => (.error cause, after.channel.dropAll)

/-- To execute the plan is to do the rendering and then what follows. -/
def Carries (planned : Scope → (Scope → Plan (depth + 1)) → Plan (depth + 1))
    (rendering : Rendering depth Unit) : Prop :=
  ∀ (stage : Stage depth) (next : Scope → Plan (depth + 1)),
    (planned stage.scope next).execute stage.channel =
      resume next (rendering stage)

theorem resume_bind (next : Scope → Plan (depth + 1))
    (first : Rendering depth Unit) (second : Unit → Rendering depth Unit)
    (stage : Stage depth) :
    resume next ((first >>= second) stage) =
      match first stage with
      | .ok value after => resume next (second value after)
      | .error cause after => (.error cause, after.channel.dropAll) := by
  show resume next (EStateM.bind first second stage) = _
  unfold EStateM.bind
  cases first stage <;> rfl

theorem execute_write (text : String) (next : Plan (depth + 1))
    (stage : Stage depth) :
    (Plan.write (Text.bytes text) next).execute stage.channel =
      resume (fun _ => next) (write text stage) := by
  rw [Plan.execute, write, writeBytes]
  rcases Channel.writeAll (depth + 1) stage.channel (Text.bytes text) with
    ⟨result, channel⟩
  cases result <;> rfl

theorem write_scope {text : String} {stage after : Stage depth}
    (ok : write text stage = .ok () after) : after.scope = stage.scope :=
  (write_ok ok).scope

theorem carries_writeTexts (texts : List String) :
    Carries (fun scope next => .writes texts (next scope))
      (writeTexts texts : Rendering depth Unit) := by
  intro stage next
  induction texts generalizing stage with
  | nil => rfl
  | cons text rest inductionHypothesis =>
      rw [writeTexts, resume_bind]
      show (Plan.write (Text.bytes text)
        (Plan.writes rest (next stage.scope))).execute stage.channel = _
      rw [execute_write]
      cases written : write text stage with
      | error cause after => rfl
      | ok value after =>
          have same : after.scope = stage.scope := write_scope written
          show (Plan.writes rest (next stage.scope)).execute after.channel = _
          rw [← same]
          exact inductionHypothesis after

theorem carries_offer (text : String) :
    Carries (fun scope next => .offer (Text.bytes text) (next scope))
      (offer text : Rendering depth Unit) := by
  intro stage next
  rw [Plan.execute, offer]
  rcases Channel.write (depth + 1) stage.channel (Text.bytes text) with
    ⟨result, channel⟩
  cases result <;> rfl

theorem carries_flush :
    Carries (fun scope next => .flush (next scope))
      (flush : Rendering depth Unit) := by
  intro stage next
  rw [Plan.execute, flush]
  rcases Channel.flush (depth + 1) stage.channel with ⟨result, channel⟩
  cases result <;> rfl

theorem carries_wrapped
    {planned : Scope → (Scope → Plan (depth + 2)) → Plan (depth + 2)}
    {inner : Rendering (depth + 1) Unit} (carries : Carries planned inner) :
    Carries (fun scope next =>
        .enter (planned scope fun scope => .leave (next scope)))
      (wrapped inner) := by
  intro stage next
  rw [Plan.execute, wrapped]
  have executed := carries ⟨stage.scope, stage.channel.onTop⟩
    fun scope => .leave (next scope)
  simp only at executed
  rw [executed]
  cases inner ⟨stage.scope, stage.channel.onTop⟩ with
  | error cause after => rfl
  | ok value after =>
      rw [resume, Plan.execute]
      simp only
      rcases Channel.flush (depth + 2) after.channel with ⟨result, channel⟩
      cases result <;> rfl

theorem carries_inScope (change : Scope → Scope)
    {planned : Scope → (Scope → Plan (depth + 1)) → Plan (depth + 1)}
    {inner : Rendering depth Unit} (carries : Carries planned inner) :
    Carries (fun scope next => planned (change scope) fun _ => next scope)
      (fun stage => inScope (change stage.scope) inner stage) := by
  intro stage next
  have executed := carries ⟨change stage.scope, stage.channel⟩
    fun _ => next stage.scope
  simp only at executed ⊢
  rw [executed, inScope]
  cases inner ⟨change stage.scope, stage.channel⟩ <;> rfl

/-- The plan of a step that runs no other steps. -/
theorem carries_own {step : Step} (own : step.isOwn = true)
    (runChildren : Component → Anywhere) :
    Carries
      (fun scope next => .measure fun buffered =>
        .writes (step.texts scope buffered) (next (step.scopeAfter scope)))
      (runStep runChildren step depth) := by
  intro stage next
  rw [runStep_own own]
  exact carries_writeTexts (step.texts stage.scope stage.channel.buffered)
    ⟨step.scopeAfter stage.scope, stage.channel⟩ next

mutual

theorem carries_planStep {planChildren : Component → Planned}
    {runChildren : Component → Anywhere}
    (carries : ∀ component depth,
      Carries (planChildren component depth) (runChildren component depth))
    (step : Step) (depth : Nat) :
    Carries (planStep planChildren step depth)
      (runStep runChildren step depth) := by
  cases step with
  | offer text =>
      rw [runStep]
      exact carries_offer text
  | flush =>
      rw [runStep]
      exact carries_flush
  | embed body =>
      rw [runStep]
      exact carries_planSteps carries body depth
  | wrap body =>
      rw [runStep]
      exact carries_wrapped (carries_planSteps carries body (depth + 1))
  | children =>
      intro stage next
      rw [runStep, scope_bind]
      exact carries stage.scope.body depth stage next
  | takeChildren =>
      intro stage next
      rw [runStep, scope_bind, setScope_bind]
      cases present : stage.scope.children with
      | some component =>
          rw [planStep, present]
          exact carries component depth
            ⟨{ stage.scope with children := none }, stage.channel⟩ next
      | none =>
          rw [planStep, present]
          show _ = resume next (write (bracketed "none") _)
          rw [← writeTexts_singleton]
          exact carries_writeTexts [bracketed "none"]
            ⟨{ stage.scope with children := none }, stage.channel⟩ next
  | fork newChildren body =>
      rw [runStep]
      exact carries_inScope
        (fun scope => { scope with children := some newChildren })
        (carries_planSteps carries body depth)
  | fail message =>
      rw [runStep]
      intro stage next
      rfl
  | write text => exact carries_own rfl runChildren
  | writeBuffered => exact carries_own rfl runChildren
  | styles classes => exact carries_own rfl runChildren
  | scripts used => exact carries_own rfl runChildren
  | dropChildren => exact carries_own rfl runChildren
  | attach newChildren => exact carries_own rfl runChildren
  | openRegistries => exact carries_own rfl runChildren
  | addStyle id => exact carries_own rfl runChildren
  | addScript name => exact carries_own rfl runChildren
  | hasStyle id => exact carries_own rfl runChildren
  | hasScript name => exact carries_own rfl runChildren

theorem carries_planSteps {planChildren : Component → Planned}
    {runChildren : Component → Anywhere}
    (carries : ∀ component depth,
      Carries (planChildren component depth) (runChildren component depth))
    (steps : List Step) (depth : Nat) :
    Carries (planSteps planChildren steps depth)
      (runSteps runChildren steps depth) := by
  intro stage next
  cases steps with
  | nil => rfl
  | cons step rest =>
      rw [runSteps, resume_bind, planSteps, carries_planStep carries step depth]
      cases runStep runChildren step depth stage with
      | error cause after => rfl
      | ok value after => exact carries_planSteps carries rest depth after next

end

theorem carries_planWithin (nesting : Nat) (component : Component)
    (depth : Nat) :
    Carries (planWithin nesting component depth)
      (component.runWithin nesting depth) := by
  induction nesting generalizing component depth with
  | zero =>
      intro stage next
      rfl
  | succ nesting inductionHypothesis =>
      exact carries_planSteps inductionHypothesis component depth

/-- Rendering a component executes its plan above the sink. -/
theorem execute_plan (component : Component) (scope : Scope) (sink : Sink) :
    (component.plan scope).execute (.sink sink) =
      ((component.render scope sink).1, (component.render scope sink).2.2) := by
  have executed := carries_planWithin maxNesting component 0
    ⟨scope, (Channel.sink sink).onTop⟩ fun _ => .leave .done
  rw [Component.plan, Plan.execute, Component.render, Component.run]
  simp only at executed
  rw [executed]
  cases component.runWithin maxNesting 0
      ⟨scope, (Channel.sink sink).onTop⟩ with
  | error cause after =>
      rw [resume, Channel.dropAll, Channel.dropAll_eq]
  | ok value after =>
      rw [resume, Plan.execute]
      dsimp only
      rcases Channel.flush 1 after.channel with ⟨result, channel⟩
      cases result with
      | error cause => exact Prod.ext rfl (Channel.dropAll_eq channel.drop)
      | ok _ => rfl

end Render

end Templating

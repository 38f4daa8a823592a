import Mathlib.Data.List.Forall2
import Templating.Proofs.Render.Deduplication
import Templating.Proofs.Render.Effect

/-!
# Traces

A run that succeeds comes down to calls, whatever its component does.  Which
calls these are depends on the component and on the children of its scope, so a
trace can be told without the run: it lists the calls, each with the classes
that its scope has got registered since the run began.  A copy of the scope
begins with what the scope has, and what the copy gets is lost with it.
-/

namespace Templating.Render

/-- A call and the classes that its scope has got registered since the run
began. -/
structure Call where
  registered : List String
  step : Step

abbrev Trace := List Call

/-- What a trace follows: the children of the scope and the classes that it has
got registered since the run began. -/
structure Notes where
  children : Option Component
  registered : List String

/-- The classes that a call registers, written or by hand. -/
def Step.registers : Step → List String
  | .styles classes => (namedStyles classes).map Prod.fst
  | .addStyle id => [id]
  | _ => []

/-- The step runs others in a copy of the scope. -/
def Step.isFork : Step → Bool
  | .fork _ _ => true
  | _ => false

mutual

/-- The trace of a step, given the traces of children. -/
def traceStep (traceChildren : Component → Notes → Trace × Notes) :
    Step → Notes → Trace × Notes
  | .embed body, notes => traceSteps traceChildren body notes
  | .wrap body, notes => traceSteps traceChildren body notes
  | .children, notes => traceChildren (notes.children.getD []) notes
  | .takeChildren, notes =>
      match notes.children with
      | some component => traceChildren component { notes with children := none }
      | none => ([⟨notes.registered, .takeChildren⟩], notes)
  | .dropChildren, notes =>
      ([⟨notes.registered, .dropChildren⟩], { notes with children := none })
  | .attach newChildren, notes =>
      ([], { notes with children := some newChildren })
  | .fork newChildren body, notes =>
      let inner := traceSteps traceChildren body
        { notes with children := some newChildren }
      (⟨notes.registered, .fork newChildren body⟩ :: inner.1, notes)
  | step, notes =>
      ([⟨notes.registered, step⟩],
        { notes with registered := notes.registered ++ step.registers })

/-- The trace of steps in order, given the traces of children. -/
def traceSteps (traceChildren : Component → Notes → Trace × Notes) :
    List Step → Notes → Trace × Notes
  | [], notes => ([], notes)
  | step :: rest, notes =>
      let first := traceStep traceChildren step notes
      let others := traceSteps traceChildren rest first.2
      (first.1 ++ others.1, others.2)

end

/-- The trace of a component whose children are nested at most `nesting`
deep. -/
def traceWithin : (nesting : Nat) → Component → Notes → Trace × Notes
  | 0, _, notes => ([], notes)
  | nesting + 1, component, notes =>
      traceSteps (traceWithin nesting) component notes

/-- The trace of a component in a scope with these children. -/
def Component.trace (component : Component) (children : Option Component) :
    Trace :=
  (traceWithin maxNesting component ⟨children, []⟩).1

/-- `Writes known call output`: with these classes known before the run, the
call writes the output. -/
inductive Writes (known : List String) : Call → Output → Prop where
  | styles {registered : List String} {classes : List Style.Class} :
      Writes known ⟨registered, .styles classes⟩
        (.styles (firstOccurrences (known ++ registered) (namedStyles classes)))
  | scripts {registered : List String} {used : List Script}
      {entries : List (String × String)}
      (ofUsed : ∀ entry ∈ entries, entry ∈ namedScripts used) :
      Writes known ⟨registered, .scripts used⟩ (.scripts entries)
  | fork {registered : List String} {newChildren body : List Step} :
      Writes known ⟨registered, .fork newChildren body⟩ (.plain [])
  | plain {registered : List String} {step : Step} {data : Bytes}
      (single : step.isFork = false) (allowed : step.MayWrite data) :
      Writes known ⟨registered, step⟩ (.plain data)

/-! ## Runs follow their traces -/

open Rendering

variable {depth : Nat} {known : List String}

/-- The notes say what is in the scope besides the known classes. -/
structure Notes.Match (known : List String) (notes : Notes) (scope : Scope) :
    Prop where
  children : scope.children = notes.children
  styles : ∀ name, name ∈ scope.writtenStyles ↔
    name ∈ known ++ notes.registered

theorem Notes.Match.same {notes : Notes} {scope other : Scope}
    (noted : notes.Match known scope) (same : other = scope) :
    Notes.Match known { notes with registered := notes.registered ++ [] }
      other := by
  rw [same, List.append_nil]
  exact noted

/-- A run writes what the calls of its trace write, and the notes still
match. -/
def Follows (known : List String) (traced : Trace × Notes)
    (stage after : Stage depth) : Prop :=
  traced.2.Match known after.scope ∧
    ∃ outputs, List.Forall₂ (Writes known) traced.1 outputs ∧
      after.channel.content =
        stage.channel.content ++ outputs.flatMap Output.bytes

theorem Follows.append {first second : Trace} {between last : Notes}
    {stage middle after : Stage depth}
    (early : Follows known (first, between) stage middle)
    (late : Follows known (second, last) middle after) :
    Follows known (first ++ second, last) stage after := by
  rcases early with ⟨_, outputs, written, content⟩
  rcases late with ⟨noted, more, others, further⟩
  refine ⟨noted, outputs ++ more, List.rel_append written others, ?_⟩
  rw [further, content, List.flatMap_append, List.append_assoc]

/-- A call that is alone in its trace. -/
theorem Follows.single {call : Call} {notes : Notes} {output : Output}
    {stage after : Stage depth} (noted : notes.Match known after.scope)
    (writes : Writes known call output)
    (content : after.channel.content = stage.channel.content ++ output.bytes) :
    Follows known ([call], notes) stage after := by
  refine ⟨noted, [output], .cons writes .nil, ?_⟩
  rw [content, List.flatMap_singleton]

/-- The step runs no other steps, has no block and leaves the children
alone. -/
def Step.isPlain : Step → Bool
  | .write _ => true
  | .writeBuffered => true
  | .openRegistries => true
  | .addStyle _ => true
  | .addScript _ => true
  | .hasStyle _ => true
  | .hasScript _ => true
  | _ => false

section Plain

variable {step : Step}

theorem isOwn_of_isPlain (plain : step.isPlain = true) :
    step.isOwn = true ∧ step.isFork = false := by
  cases step with
  | fork newChildren body => cases plain
  | embed body => cases plain
  | wrap body => cases plain
  | children => cases plain
  | takeChildren => cases plain
  | offer text => cases plain
  | flush => cases plain
  | fail message => cases plain
  | _ => exact ⟨rfl, rfl⟩

theorem mayWrite_texts (plain : step.isPlain = true) (scope : Scope)
    (buffered : Nat) :
    step.MayWrite ((step.texts scope buffered).flatMap Text.bytes) := by
  have alone : ∀ text, [text].flatMap Text.bytes = Text.bytes text :=
    fun text => List.flatMap_singleton ..
  cases step with
  | write text => exact alone text
  | openRegistries => rfl
  | writeBuffered => exact ⟨_, alone _⟩
  | addStyle id => exact ⟨_, alone _⟩
  | addScript name => exact ⟨_, alone _⟩
  | hasStyle id => exact ⟨_, alone _⟩
  | hasScript name => exact ⟨_, alone _⟩
  | _ => cases plain

/-- What the step is said to register is registered afterwards. -/
theorem match_scopeAfter (plain : step.isPlain = true) {notes : Notes}
    {scope : Scope} (noted : notes.Match known scope) :
    Notes.Match known
      { notes with registered := notes.registered ++ step.registers }
      (step.scopeAfter scope) := by
  have nothing := noted.same rfl
  cases step with
  | addStyle id =>
      refine ⟨noted.children, ?_⟩
      intro name
      rw [Step.scopeAfter, Scope.writtenStyles, Option.getD_some,
        Registry.mem_insert, noted.styles, Step.registers]
      simp only [List.mem_append, List.mem_singleton, or_assoc]
  | write text => exact nothing
  | writeBuffered => exact nothing
  | openRegistries => exact ⟨nothing.children, nothing.styles⟩
  | addScript name => exact ⟨nothing.children, nothing.styles⟩
  | hasStyle id => exact nothing
  | hasScript name => exact nothing
  | _ => cases plain

/-- Such a step is its own trace. -/
theorem follows_plain (plain : step.isPlain = true)
    (runChildren : Component → Anywhere) {notes : Notes}
    {stage after : Stage depth} (noted : notes.Match known stage.scope)
    (ok : runStep runChildren step depth stage = .ok () after) :
    Follows known ([⟨notes.registered, step⟩],
      { notes with registered := notes.registered ++ step.registers })
      stage after := by
  rcases isOwn_of_isPlain plain with ⟨own, single⟩
  rw [runStep_own own] at ok
  have wrote := writeTexts_ok ok
  apply Follows.single _ (.plain single (mayWrite_texts plain _ _))
    wrote.content
  rw [wrote.scope]
  exact match_scopeAfter plain noted

end Plain

theorem follows_styles {classes : List Style.Class} {notes : Notes}
    {stage after : Stage depth} (noted : notes.Match known stage.scope)
    (ok : renderStyles classes stage = .ok () after) :
    Follows known ([⟨notes.registered, .styles classes⟩],
      { notes with
        registered := notes.registered ++ (namedStyles classes).map Prod.fst })
      stage after := by
  rcases renderStyles_ok ok with ⟨scope, content⟩
  rw [firstOccurrences_congr noted.styles] at content
  refine Follows.single ⟨?_, ?_⟩ .styles content
  · rw [scope]
    exact noted.children
  · intro name
    rw [scope, Scope.writtenStyles, Option.getD_some, Registry.mem_insertAll,
      noted.styles, List.mem_append, List.mem_append, List.mem_append, or_assoc]

theorem follows_scripts {used : List Script} {notes : Notes}
    {stage after : Stage depth} (noted : notes.Match known stage.scope)
    (ok : renderScripts used stage = .ok () after) :
    Follows known ([⟨notes.registered, .scripts used⟩],
      { notes with registered := notes.registered ++ [] }) stage after := by
  rcases renderScripts_ok ok with ⟨scope, content⟩
  refine Follows.single ⟨?_, ?_⟩
    (.scripts fun _ => mem_of_mem_firstOccurrences) content
  · rw [scope]
    exact noted.children
  · intro name
    rw [scope, List.append_nil]
    exact noted.styles name

/-- Running children follows their traces, wherever they are run. -/
def ChildrenFollow (known : List String)
    (traceChildren : Component → Notes → Trace × Notes)
    (runChildren : Component → Anywhere) : Prop :=
  ∀ (component : Component) (depth : Nat) (notes : Notes)
    (stage after : Stage depth), notes.Match known stage.scope →
    runChildren component depth stage = .ok () after →
    Follows known (traceChildren component notes) stage after

theorem inScope_ok {other : Scope} {inner : Rendering depth Unit}
    {stage after : Stage depth} (ok : inScope other inner stage = .ok () after) :
    ∃ between, inner ⟨other, stage.channel⟩ = .ok () between ∧
      after = ⟨stage.scope, between.channel⟩ := by
  rw [inScope] at ok
  split at ok
  · rename_i between ran
    rw [EStateM.Result.ok.injEq] at ok
    exact ⟨between, ran, ok.2.symm⟩
  · cases ok

mutual

theorem follows_runStep
    {traceChildren : Component → Notes → Trace × Notes}
    {runChildren : Component → Anywhere}
    (childrenFollow : ChildrenFollow known traceChildren runChildren)
    (step : Step) {depth : Nat} {notes : Notes} {stage after : Stage depth}
    (noted : notes.Match known stage.scope)
    (ok : runStep runChildren step depth stage = .ok () after) :
    Follows known (traceStep traceChildren step notes) stage after := by
  cases step with
  | write text => exact follows_plain rfl runChildren noted ok
  | offer text =>
      rw [runStep] at ok
      rcases offer_ok ok with ⟨data, isPrefix, wrote⟩
      exact .single (noted.same wrote.scope) (.plain rfl isPrefix) wrote.content
  | flush =>
      rw [runStep] at ok
      have wrote := flush_ok ok
      exact .single (noted.same wrote.scope) (.plain rfl rfl) wrote.content
  | writeBuffered => exact follows_plain rfl runChildren noted ok
  | styles classes =>
      rw [runStep] at ok
      exact follows_styles noted ok
  | scripts used =>
      rw [runStep] at ok
      exact follows_scripts noted ok
  | embed body =>
      rw [runStep] at ok
      exact follows_runSteps childrenFollow body noted ok
  | wrap body =>
      rw [runStep] at ok
      rcases wrapped_ok ok with ⟨between, ran, scope, content⟩
      have entered : notes.Match known
          (Stage.mk stage.scope stage.channel.onTop).scope := noted
      rcases follows_runSteps childrenFollow body entered ran with
        ⟨notedInner, outputs, written, contentInner⟩
      rw [← scope] at notedInner
      rw [← content, Channel.content_onTop] at contentInner
      exact ⟨notedInner, outputs, written, contentInner⟩
  | children =>
      rw [runStep, scope_bind] at ok
      rw [Scope.body, noted.children] at ok
      exact childrenFollow _ _ _ _ _ noted ok
  | dropChildren =>
      rw [runStep, scope_bind, setScope_bind] at ok
      have wrote := write_ok ok
      refine .single ⟨?_, ?_⟩ (.plain rfl ⟨_, rfl⟩) wrote.content
      · rw [wrote.scope]
      · rw [wrote.scope]
        exact noted.styles
  | takeChildren =>
      rw [runStep, scope_bind, setScope_bind] at ok
      rw [traceStep, ← noted.children]
      cases present : stage.scope.children with
      | some component =>
          rw [present] at ok
          exact childrenFollow component depth { notes with children := none }
            ⟨{ stage.scope with children := none }, stage.channel⟩ after
            ⟨rfl, noted.styles⟩ ok
      | none =>
          rw [present] at ok
          have wrote := write_ok ok
          refine .single ⟨?_, ?_⟩ (.plain rfl ⟨_, rfl⟩) wrote.content
          · rw [wrote.scope, ← noted.children, present]
          · rw [wrote.scope]
            exact noted.styles
  | attach newChildren =>
      rw [runStep, scope_bind, setScope_eq, EStateM.Result.ok.injEq] at ok
      rw [← ok.2]
      exact ⟨⟨rfl, noted.styles⟩, [], .nil, (List.append_nil _).symm⟩
  | fork newChildren body =>
      rw [runStep, scope_bind] at ok
      rcases inScope_ok ok with ⟨between, ran, rfl⟩
      have copied : Notes.Match known
          { notes with children := some newChildren }
          (Stage.mk { stage.scope with children := some newChildren }
            stage.channel).scope :=
        ⟨rfl, noted.styles⟩
      rcases follows_runSteps childrenFollow body copied ran with
        ⟨_, outputs, written, content⟩
      exact ⟨noted, .plain [] :: outputs, .cons .fork written, content⟩
  | openRegistries => exact follows_plain rfl runChildren noted ok
  | addStyle id => exact follows_plain rfl runChildren noted ok
  | addScript name => exact follows_plain rfl runChildren noted ok
  | hasStyle id => exact follows_plain rfl runChildren noted ok
  | hasScript name => exact follows_plain rfl runChildren noted ok
  | fail message =>
      rw [runStep] at ok
      cases ok

theorem follows_runSteps
    {traceChildren : Component → Notes → Trace × Notes}
    {runChildren : Component → Anywhere}
    (childrenFollow : ChildrenFollow known traceChildren runChildren)
    (steps : List Step) {depth : Nat} {notes : Notes}
    {stage after : Stage depth} (noted : notes.Match known stage.scope)
    (ok : runSteps runChildren steps depth stage = .ok () after) :
    Follows known (traceSteps traceChildren steps notes) stage after := by
  cases steps with
  | nil =>
      rw [runSteps] at ok
      rcases pure_eq_ok.mp ok with ⟨_, rfl⟩
      exact ⟨noted, [], .nil, (List.append_nil _).symm⟩
  | cons step rest =>
      rw [runSteps] at ok
      rcases bind_eq_ok.mp ok with ⟨_, between, first, ok⟩
      have early := follows_runStep childrenFollow step noted first
      exact early.append (follows_runSteps childrenFollow rest early.1 ok)

end

theorem childrenFollow_runWithin (known : List String) (nesting : Nat) :
    ChildrenFollow known (traceWithin nesting)
      (Component.runWithin nesting) := by
  induction nesting with
  | zero =>
      intro component depth notes stage after _ ok
      rw [Component.runWithin] at ok
      cases ok
  | succ nesting inductionHypothesis =>
      intro component depth notes stage after noted ok
      rw [Component.runWithin] at ok
      exact follows_runSteps inductionHypothesis component noted ok

/-- A render that succeeds leaves in the sink what the calls of its trace
write. -/
theorem render_follows {component : Component} {scope after : Scope}
    {sink last : Sink}
    (ok : component.render scope sink = (.ok (), after, last)) :
    ∃ outputs,
      List.Forall₂ (Writes scope.writtenStyles.names)
        (component.trace scope.children) outputs ∧
      last.bytes = sink.bytes ++ outputs.flatMap Output.bytes := by
  rcases render_eq_ok ok with ⟨stage, ran, rfl, bytes⟩
  have noted : Notes.Match scope.writtenStyles.names ⟨scope.children, []⟩
      (Stage.mk scope (Channel.sink sink).onTop).scope := by
    refine ⟨rfl, ?_⟩
    intro name
    rw [List.append_nil]
    rfl
  rcases childrenFollow_runWithin _ maxNesting component 0 _ _ _ noted ran with
    ⟨_, outputs, written, content⟩
  refine ⟨outputs, written, ?_⟩
  rw [bytes, content, Channel.content_onTop, Channel.content_sink]

end Templating.Render

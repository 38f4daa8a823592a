import Templating.Proofs.Render.Calls

/-!
# Deduplication over a tree

Every rule and every function is written once in a tree of components, at its
first use.  A run that succeeds appends the answers of the calls that its steps
come down to, and registers all their names.  This holds for one step, given it
holds for the children that the step may run, and so for runs of any length and
any nesting.
-/

namespace Templating.Render

open Rendering

variable {depth : Nat}

/-- A run from one stage to another delivers the answers of its calls. -/
structure Delivers (steps calls : List Step) (outputs : List Output)
    (stage after : Stage depth) : Prop where
  callsOf : CallsOf stage.scope.children steps calls after.scope.children
  answers : Answers stage.scope.writtenStyles.names
    stage.scope.writtenScripts.names calls outputs
  content : after.channel.content =
    stage.channel.content ++ outputs.flatMap Output.bytes
  styles : ∀ name, name ∈ after.scope.writtenStyles ↔
    name ∈ stage.scope.writtenStyles ∨
      name ∈ (calls.flatMap Step.styleEntries).map Prod.fst
  scripts : ∀ name, name ∈ after.scope.writtenScripts ↔
    name ∈ stage.scope.writtenScripts ∨
      name ∈ (calls.flatMap Step.scriptEntries).map Prod.fst

/-- The steps bring a stage to another by way of some calls. -/
def Runs (steps : List Step) (stage after : Stage depth) : Prop :=
  ∃ calls outputs, Delivers steps calls outputs stage after

/-- A step through which other steps are run delivers what these deliver. -/
theorem Delivers.through {step : Step} {steps calls : List Step}
    {outputs : List Output} {stage after : Stage depth}
    (delivers : Delivers steps calls outputs stage after)
    (callsOf : CallsOf stage.scope.children [step] calls
      after.scope.children) :
    Runs [step] stage after :=
  ⟨calls, outputs, callsOf, delivers.answers, delivers.content,
    delivers.styles, delivers.scripts⟩

theorem Runs.nil (stage : Stage depth) : Runs [] stage stage :=
  ⟨[], [], .nil, .nil, by simp, by simp, by simp⟩

theorem Runs.append {first second : List Step}
    {stage between after : Stage depth} (before : Runs first stage between)
    (behind : Runs second between after) :
    Runs (first ++ second) stage after := by
  rcases before with ⟨calls, outputs, early⟩
  rcases behind with ⟨others, more, late⟩
  refine ⟨calls ++ others, outputs ++ more, ?_, ?_, ?_, ?_, ?_⟩
  · exact early.callsOf.append late.callsOf
  · apply early.answers.append
    apply late.answers.congr
    · intro name
      rw [List.mem_append]
      exact early.styles name
    · intro name
      rw [List.mem_append]
      exact early.scripts name
  · rw [late.content, early.content, List.flatMap_append, List.append_assoc]
  · intro name
    rw [late.styles, early.styles, List.flatMap_append, List.map_append,
      List.mem_append, or_assoc]
  · intro name
    rw [late.scripts, early.scripts, List.flatMap_append, List.map_append,
      List.mem_append, or_assoc]

/-- A call that writes without touching what is registered. -/
theorem Runs.plain {step call : Step} {data : Bytes}
    {stage after : Stage depth}
    (callsOf : CallsOf stage.scope.children [step] [call] after.scope.children)
    (allowed : call.MayWrite data)
    (sameStyles : after.scope.writtenStyles = stage.scope.writtenStyles)
    (sameScripts : after.scope.writtenScripts = stage.scope.writtenScripts)
    (content : after.channel.content = stage.channel.content ++ data) :
    Runs [step] stage after := by
  rcases Answers.entries_of_mayWrite allowed with ⟨noStyles, noScripts⟩
  refine ⟨[call], [.plain data], callsOf, .plain allowed .nil, ?_, ?_, ?_⟩
  · rw [content]
    simp [Output.bytes]
  · intro name
    rw [sameStyles]
    simp [noStyles]
  · intro name
    rw [sameScripts]
    simp [noScripts]

/-- A call that writes and leaves the scope alone. -/
theorem Runs.wrote {step : Step} {data : Bytes} {stage after : Stage depth}
    (isCall : step.isCall = true) (allowed : step.MayWrite data)
    (wrote : Wrote data stage after) : Runs [step] stage after := by
  apply Runs.plain _ allowed _ _ wrote.content
  · rw [wrote.scope]
    exact .call isCall .nil
  · rw [wrote.scope]
  · rw [wrote.scope]

theorem runs_styles {classes : List Style.Class} {stage after : Stage depth}
    (ok : renderStyles classes stage = .ok () after) :
    Runs [.styles classes] stage after := by
  rcases renderStyles_ok ok with ⟨scope, content⟩
  refine ⟨[.styles classes], [.styles _], ?_, .styles .nil, ?_, ?_, ?_⟩
  · rw [scope]
    exact .call rfl .nil
  · rw [content]
    simp [Output.bytes]
  · intro name
    rw [scope, Scope.writtenStyles, Option.getD_some, Registry.mem_insertAll]
    simp [Step.styleEntries]
  · intro name
    rw [scope]
    simp [Step.scriptEntries, Scope.writtenScripts]

theorem runs_scripts {used : List Script} {stage after : Stage depth}
    (ok : renderScripts used stage = .ok () after) :
    Runs [.scripts used] stage after := by
  rcases renderScripts_ok ok with ⟨scope, content⟩
  refine ⟨[.scripts used], [.scripts _], ?_, .scripts .nil, ?_, ?_, ?_⟩
  · rw [scope]
    exact .call rfl .nil
  · rw [content]
    simp [Output.bytes]
  · intro name
    rw [scope]
    simp [Step.styleEntries, Scope.writtenStyles]
  · intro name
    rw [scope, Scope.writtenScripts, Option.getD_some, Registry.mem_insertAll]
    simp [Step.scriptEntries]

/-- Running children delivers, wherever they are run. -/
def ChildrenRun (runChildren : Component → Anywhere) : Prop :=
  ∀ (component : Component) (depth : Nat) (stage after : Stage depth),
    stepsShared component = true → stage.scope.isShared = true →
    runChildren component depth stage = .ok () after →
    Runs component stage after

theorem Runs.isShared {steps : List Step} {stage after : Stage depth}
    (runs : Runs steps stage after) (sharedSteps : stepsShared steps = true)
    (sharedScope : stage.scope.isShared = true) :
    after.scope.isShared = true := by
  rcases runs with ⟨_, _, delivers⟩
  exact delivers.callsOf.isShared sharedSteps sharedScope

mutual

/-- One step delivers the answers of its calls. -/
theorem runs_runStep {runChildren : Component → Anywhere}
    (childrenRun : ChildrenRun runChildren) (step : Step) {depth : Nat}
    {stage after : Stage depth}
    (sharedStep : step.isShared = true)
    (sharedScope : stage.scope.isShared = true)
    (ok : runStep runChildren step depth stage = .ok () after) :
    Runs [step] stage after := by
  cases step with
  | write text =>
      rw [runStep] at ok
      exact .wrote rfl rfl (write_ok ok)
  | offer text =>
      rw [runStep] at ok
      rcases offer_ok ok with ⟨data, isPrefix, wrote⟩
      exact .wrote rfl isPrefix wrote
  | flush =>
      rw [runStep] at ok
      exact .wrote rfl rfl (flush_ok ok)
  | writeBuffered =>
      rw [runStep, buffered_bind] at ok
      exact .wrote rfl ⟨_, rfl⟩ (write_ok ok)
  | styles classes =>
      rw [runStep] at ok
      exact runs_styles ok
  | scripts used =>
      rw [runStep] at ok
      exact runs_scripts ok
  | embed body =>
      rw [runStep] at ok
      rw [Step.isShared] at sharedStep
      rcases runs_runSteps childrenRun body sharedStep sharedScope ok with
        ⟨calls, outputs, delivers⟩
      apply delivers.through
      rw [← List.append_nil calls]
      exact .embed delivers.callsOf .nil
  | wrap body =>
      rw [runStep] at ok
      rw [Step.isShared] at sharedStep
      rcases wrapped_ok ok with ⟨between, ran, scope, content⟩
      have sharedInner :
          (Stage.mk stage.scope stage.channel.onTop).scope.isShared = true :=
        sharedScope
      rcases runs_runSteps childrenRun body sharedStep sharedInner ran with
        ⟨calls, outputs, delivers⟩
      refine ⟨calls, outputs, ?_, delivers.answers, ?_, ?_, ?_⟩
      · rw [← List.append_nil calls, scope]
        exact .wrap delivers.callsOf .nil
      · rw [content, delivers.content, Channel.content_onTop]
      · rw [scope]
        exact delivers.styles
      · rw [scope]
        exact delivers.scripts
  | children =>
      rw [runStep, scope_bind] at ok
      rcases childrenRun _ _ _ _ sharedScope sharedScope ok with
        ⟨calls, outputs, delivers⟩
      apply delivers.through
      rw [← List.append_nil calls]
      exact .children delivers.callsOf .nil
  | dropChildren =>
      rw [runStep, scope_bind, setScope_bind] at ok
      have wrote := write_ok ok
      have callsOf : CallsOf stage.scope.children [.dropChildren]
          [.dropChildren] after.scope.children := by
        rw [wrote.scope]
        exact .dropChildren .nil
      apply Runs.plain callsOf ⟨_, rfl⟩ _ _ wrote.content
      · rw [wrote.scope]
        rfl
      · rw [wrote.scope]
        rfl
  | takeChildren =>
      rw [runStep, scope_bind, setScope_bind] at ok
      rw [Scope.isShared, Scope.body] at sharedScope
      cases present : stage.scope.children with
      | some component =>
          rw [present] at ok sharedScope
          rcases childrenRun _ _ _ _ sharedScope rfl ok with
            ⟨calls, outputs, delivers⟩
          have callsOf : CallsOf stage.scope.children [.takeChildren] calls
              after.scope.children := by
            rw [← List.append_nil calls, present]
            exact .takeSome delivers.callsOf .nil
          exact ⟨calls, outputs, callsOf, delivers.answers, delivers.content,
            delivers.styles, delivers.scripts⟩
      | none =>
          rw [present] at ok
          have wrote := write_ok ok
          have callsOf : CallsOf stage.scope.children [.takeChildren]
              [.takeChildren] after.scope.children := by
            rw [wrote.scope, present]
            exact .takeNone .nil
          apply Runs.plain callsOf ⟨_, rfl⟩ _ _ wrote.content
          · rw [wrote.scope]
            rfl
          · rw [wrote.scope]
            rfl
  | attach newChildren =>
      rw [runStep, scope_bind, setScope_eq, EStateM.Result.ok.injEq] at ok
      rw [← ok.2]
      refine ⟨[], [], .attach .nil, .nil, ?_, ?_, ?_⟩
      · simp
      · simp [Scope.writtenStyles]
      · simp [Scope.writtenScripts]
  | fork newChildren body => cases sharedStep
  | openRegistries =>
      rw [runStep, scope_bind, setScope_eq, EStateM.Result.ok.injEq] at ok
      rw [← ok.2]
      refine ⟨[.openRegistries], [.plain []], .call rfl .nil, .plain rfl .nil,
        ?_, ?_, ?_⟩
      · simp [Output.bytes]
      · simp [Step.styleEntries, Scope.writtenStyles]
      · simp [Step.scriptEntries, Scope.writtenScripts]
  | addStyle id => cases sharedStep
  | addScript name => cases sharedStep
  | hasStyle id =>
      rw [runStep, scope_bind] at ok
      cases present : stage.scope.styles with
      | some registry =>
          rw [present] at ok
          exact .wrote rfl ⟨_, rfl⟩ (write_ok ok)
      | none =>
          rw [present] at ok
          exact .wrote rfl ⟨_, rfl⟩ (write_ok ok)
  | hasScript name =>
      rw [runStep, scope_bind] at ok
      cases present : stage.scope.scripts with
      | some registry =>
          rw [present] at ok
          exact .wrote rfl ⟨_, rfl⟩ (write_ok ok)
      | none =>
          rw [present] at ok
          exact .wrote rfl ⟨_, rfl⟩ (write_ok ok)
  | fail message =>
      rw [runStep] at ok
      cases ok

/-- Steps in order deliver the answers of their calls. -/
theorem runs_runSteps {runChildren : Component → Anywhere}
    (childrenRun : ChildrenRun runChildren) (steps : List Step) {depth : Nat}
    {stage after : Stage depth} (sharedSteps : stepsShared steps = true)
    (sharedScope : stage.scope.isShared = true)
    (ok : runSteps runChildren steps depth stage = .ok () after) :
    Runs steps stage after := by
  cases steps with
  | nil =>
      rw [runSteps] at ok
      rcases pure_eq_ok.mp ok with ⟨_, rfl⟩
      exact .nil stage
  | cons step rest =>
      rw [runSteps] at ok
      rcases bind_eq_ok.mp ok with ⟨_, between, first, ok⟩
      rw [stepsShared, Bool.and_eq_true] at sharedSteps
      have early := runs_runStep childrenRun step sharedSteps.1 sharedScope first
      have sharedStep : stepsShared [step] = true := by
        rw [stepsShared, Bool.and_eq_true]
        exact ⟨sharedSteps.1, rfl⟩
      have late := runs_runSteps childrenRun rest sharedSteps.2
        (early.isShared sharedStep sharedScope) ok
      exact early.append late

end

/-- Children within any nesting deliver. -/
theorem childrenRun_runWithin (nesting : Nat) :
    ChildrenRun (Component.runWithin nesting) := by
  induction nesting with
  | zero =>
      intro component depth stage after _ _ ok
      rw [Component.runWithin] at ok
      cases ok
  | succ nesting inductionHypothesis =>
      intro component depth stage after sharedSteps sharedScope ok
      rw [Component.runWithin] at ok
      exact runs_runSteps inductionHypothesis component sharedSteps sharedScope
        ok

/-- A render that succeeds ends with everything in the sink. -/
theorem render_eq_ok {component : Component} {scope after : Scope}
    {sink last : Sink}
    (ok : component.render scope sink = (.ok (), after, last)) :
    ∃ stage, component.run 0 ⟨scope, (Channel.sink sink).onTop⟩ =
        .ok () stage ∧
      after = stage.scope ∧ last.bytes = stage.channel.content := by
  rw [Component.render] at ok
  split at ok
  · rename_i stage ran
    rcases flushed : Channel.flush 1 stage.channel with ⟨result, channel⟩
    rw [flushed] at ok
    simp only [Prod.mk.injEq] at ok
    rcases ok with ⟨rfl, rfl, rfl⟩
    have content := Channel.content_drop_flush flushed
    refine ⟨stage, ran, rfl, ?_⟩
    rw [← content, Channel.content_eq]
    cases channel.drop with
    | sink target => exact (List.append_nil _).symm
  · simp at ok

/-- Every rule and every function is written once in a render that succeeds:
at its first use, in a block of the call that uses it, unless its name was
registered before.  With equal rules for equal classes, the rules of a style
call are written when the call ends, except for classes registered before. -/
theorem render_deduplicates {component : Component} {scope after : Scope}
    {sink last : Sink} (sharedComponent : stepsShared component = true)
    (sharedScope : scope.isShared = true)
    (ok : component.render scope sink = (.ok (), after, last)) :
    ∃ calls outputs,
      CallsOf scope.children component calls after.children ∧
      Answers scope.writtenStyles.names scope.writtenScripts.names calls
        outputs ∧
      last.bytes = sink.bytes ++ outputs.flatMap Output.bytes ∧
      outputs.flatMap Output.styleEntries =
        firstOccurrences scope.writtenStyles.names
          (calls.flatMap Step.styleEntries) ∧
      outputs.flatMap Output.scriptEntries =
        firstOccurrences scope.writtenScripts.names
          (calls.flatMap Step.scriptEntries) ∧
      (∀ name, name ∈ after.writtenStyles ↔ name ∈ scope.writtenStyles ∨
        ∃ classes styled, .styles classes ∈ calls ∧
          .styled styled ∈ classes ∧ styled.id = name) ∧
      (∀ name, name ∈ after.writtenScripts ↔ name ∈ scope.writtenScripts ∨
        ∃ used script, .scripts used ∈ calls ∧ script ∈ used ∧
          script.name = name) ∧
      ((∀ first ∈ calls.flatMap Step.styleEntries,
          ∀ second ∈ calls.flatMap Step.styleEntries,
            first.1 = second.1 → first = second) →
        ∀ before classes behind, calls = before ++ .styles classes :: behind →
          ∃ written later, outputs = written ++ later ∧
            written.length = before.length + 1 ∧
            ∀ styled, .styled styled ∈ classes →
              styled.id ∈ scope.writtenStyles ∨
                (styled.id, styled.rule) ∈
                  written.flatMap Output.styleEntries) := by
  rcases render_eq_ok ok with ⟨stage, ran, rfl, bytes⟩
  rcases childrenRun_runWithin maxNesting component 0 _ stage sharedComponent
    sharedScope ran with ⟨calls, outputs, delivers⟩
  refine ⟨calls, outputs, delivers.callsOf, delivers.answers, ?_,
    delivers.answers.styleEntries, delivers.answers.scriptEntries, ?_, ?_, ?_⟩
  · rw [bytes, delivers.content, Channel.content_onTop, Channel.content_sink]
  · intro name
    rw [delivers.styles, mem_styleNames]
  · intro name
    rw [delivers.scripts, mem_scriptNames]
  · intro equalRules before classes behind split
    have answers := delivers.answers
    rw [split, List.append_cons] at answers equalRules
    rcases answers.split with ⟨written, later, both, early, _⟩
    refine ⟨written, later, both, ?_, ?_⟩
    · rw [early.length_eq, List.length_append]
      rfl
    · intro styled isListed
      have equalEarly : ∀ first ∈
            (before ++ [Step.styles classes]).flatMap Step.styleEntries,
          ∀ second ∈ (before ++ [Step.styles classes]).flatMap Step.styleEntries,
            first.1 = second.1 → first = second := by
        intro first isFirst second isSecond
        rw [List.flatMap_append] at equalRules
        exact equalRules first (List.mem_append_left _ isFirst) second
          (List.mem_append_left _ isSecond)
      have member : (styled.id, styled.rule) ∈
          (before ++ [Step.styles classes]).flatMap Step.styleEntries := by
        rw [List.flatMap_append, List.flatMap_singleton]
        apply List.mem_append_right
        exact mem_namedStyles.mpr ⟨styled, isListed, rfl⟩
      exact early.styled equalEarly member

/-- A page on which a class and a script are used again, in the same call, in
another component and on another buffer. -/
def gallery : Component :=
  let red := Style.Class.styled ⟨"red", ".red\x7bcolor:red;\x7d"⟩
  let blue := Style.Class.styled ⟨"blue", ".blue\x7bcolor:blue;\x7d"⟩
  let hide : Script := ⟨"hide", "function hide()\x7b\x7d", "hide()"⟩
  [.styles [red, .constant "wide", red], .write "<p>",
    .embed [.styles [blue, red], .scripts [hide]],
    .wrap [.scripts [hide, hide], .write "</p>"]]

theorem gallery_deduplicates :
    ∃ after last calls outputs, stepsShared gallery = true ∧
      (Scope.withStyles ["blue"]).isShared = true ∧
      gallery.render (.withStyles ["blue"]) .unlimited =
        (.ok (), after, last) ∧
      Answers ["blue"] [] calls outputs ∧
      last.bytes = outputs.flatMap Output.bytes := by
  rcases rendered : gallery.render (.withStyles ["blue"]) .unlimited with
    ⟨result, after, last⟩
  have succeeds :
      (gallery.render (.withStyles ["blue"]) .unlimited).1.isOk = true := by
    decide +kernel
  rw [rendered] at succeeds
  cases result with
  | error cause => cases succeeds
  | ok _ =>
      have sharedGallery : stepsShared gallery = true := by decide +kernel
      have sharedScope : (Scope.withStyles ["blue"]).isShared = true := rfl
      rcases render_deduplicates sharedGallery sharedScope rendered with
        ⟨calls, outputs, _, answers, bytes, _⟩
      exact ⟨after, last, calls, outputs, sharedGallery, sharedScope, rfl,
        answers, bytes⟩

end Templating.Render

import Templating.Proofs.Render.Moment

/-!
# Rendering into a bounded sink

Buffers change when bytes reach the sink, never which bytes and in which order.
A component that delivers what it writes leaves the first bytes of the whole
output in a sink with limited room, and it reports an error when these are not
all.
-/

namespace Templating.Render

/-! ## Components that deliver -/

mutual

/-- The step and all steps that it brings along write everything or fail. -/
def Step.delivers : Step → Bool
  | .offer _ => false
  | .embed body => stepsDeliver body
  | .wrap body => stepsDeliver body
  | .attach newChildren => stepsDeliver newChildren
  | .fork newChildren body => stepsDeliver newChildren && stepsDeliver body
  | .write _ => true
  | .flush => true
  | .writeBuffered => true
  | .styles _ => true
  | .scripts _ => true
  | .children => true
  | .dropChildren => true
  | .takeChildren => true
  | .openRegistries => true
  | .addStyle _ => true
  | .addScript _ => true
  | .hasStyle _ => true
  | .hasScript _ => true
  | .fail _ => true

def stepsDeliver : List Step → Bool
  | [] => true
  | step :: rest => step.delivers && stepsDeliver rest

end

/-- The children of the scope deliver what they write. -/
def Scope.delivers (scope : Scope) : Bool :=
  stepsDeliver scope.body

variable {depth : Nat}

/-- The plan delivers if what follows does, in a scope whose children
deliver. -/
def DeliversAll
    (planned : Scope → (Scope → Plan (depth + 1)) → Plan (depth + 1)) : Prop :=
  ∀ (scope : Scope) (next : Scope → Plan (depth + 1)),
    scope.delivers = true →
    (∀ after : Scope, after.delivers = true → (next after).Delivers) →
    (planned scope next).Delivers

theorem delivers_writes (texts : List String) {next : Plan (depth + 1)}
    (delivers : next.Delivers) : (Plan.writes texts next).Delivers := by
  induction texts with
  | nil => exact delivers
  | cons text rest inductionHypothesis => exact inductionHypothesis

/-- A step that runs no other steps only gives the scope children that it
brings along. -/
theorem delivers_scopeAfter {step : Step} (stepDelivers : step.delivers = true)
    {scope : Scope} (scopeDelivers : scope.delivers = true) :
    (step.scopeAfter scope).delivers = true := by
  cases step with
  | attach newChildren => exact stepDelivers
  | dropChildren => rfl
  | _ => exact scopeDelivers

theorem deliversAll_own {step : Step} (stepDelivers : step.delivers = true) :
    DeliversAll (fun scope (next : Scope → Plan (depth + 1)) =>
      .measure fun buffered =>
        .writes (step.texts scope buffered) (next (step.scopeAfter scope))) := by
  intro scope next scopeDelivers follows buffered
  exact delivers_writes _ (follows _ (delivers_scopeAfter stepDelivers
    scopeDelivers))

mutual

theorem deliversAll_planStep {planChildren : Component → Planned}
    (childrenDeliver : ∀ component depth, stepsDeliver component = true →
      DeliversAll (planChildren component depth))
    (step : Step) (depth : Nat) (stepDelivers : step.delivers = true) :
    DeliversAll (planStep planChildren step depth) := by
  intro scope next scopeDelivers follows
  cases step with
  | offer text => cases stepDelivers
  | flush => exact follows scope scopeDelivers
  | embed body =>
      exact deliversAll_planSteps childrenDeliver body depth stepDelivers scope
        next scopeDelivers follows
  | wrap body =>
      exact deliversAll_planSteps childrenDeliver body (depth + 1) stepDelivers
        scope _ scopeDelivers follows
  | children =>
      exact childrenDeliver scope.body depth scopeDelivers scope next
        scopeDelivers follows
  | takeChildren =>
      rw [planStep]
      cases present : scope.children with
      | some component =>
          rw [Scope.delivers, Scope.body, present] at scopeDelivers
          exact childrenDeliver component depth scopeDelivers
            { scope with children := none } next rfl follows
      | none => exact follows { scope with children := none } rfl
  | fork newChildren body =>
      rw [Step.delivers, Bool.and_eq_true] at stepDelivers
      exact deliversAll_planSteps childrenDeliver body depth stepDelivers.2
        { scope with children := some newChildren } _ stepDelivers.1
        fun _ _ => follows scope scopeDelivers
  | fail message => exact trivial
  | write text => exact deliversAll_own rfl scope next scopeDelivers follows
  | writeBuffered => exact deliversAll_own rfl scope next scopeDelivers follows
  | styles classes => exact deliversAll_own rfl scope next scopeDelivers follows
  | scripts used => exact deliversAll_own rfl scope next scopeDelivers follows
  | dropChildren => exact deliversAll_own rfl scope next scopeDelivers follows
  | attach newChildren =>
      exact deliversAll_own stepDelivers scope next scopeDelivers follows
  | openRegistries => exact deliversAll_own rfl scope next scopeDelivers follows
  | addStyle id => exact deliversAll_own rfl scope next scopeDelivers follows
  | addScript name => exact deliversAll_own rfl scope next scopeDelivers follows
  | hasStyle id => exact deliversAll_own rfl scope next scopeDelivers follows
  | hasScript name => exact deliversAll_own rfl scope next scopeDelivers follows

theorem deliversAll_planSteps {planChildren : Component → Planned}
    (childrenDeliver : ∀ component depth, stepsDeliver component = true →
      DeliversAll (planChildren component depth))
    (steps : List Step) (depth : Nat) (delivers : stepsDeliver steps = true) :
    DeliversAll (planSteps planChildren steps depth) := by
  intro scope next scopeDelivers follows
  cases steps with
  | nil => exact follows scope scopeDelivers
  | cons step rest =>
      rw [stepsDeliver, Bool.and_eq_true] at delivers
      apply deliversAll_planStep childrenDeliver step depth delivers.1 scope _
        scopeDelivers
      intro after afterDelivers
      exact deliversAll_planSteps childrenDeliver rest depth delivers.2 after
        next afterDelivers follows

end

theorem deliversAll_planWithin (nesting : Nat) (component : Component)
    (depth : Nat) (delivers : stepsDeliver component = true) :
    DeliversAll (planWithin nesting component depth) := by
  induction nesting generalizing component depth with
  | zero =>
      intro scope next _ _
      exact trivial
  | succ nesting inductionHypothesis =>
      exact deliversAll_planSteps inductionHypothesis component depth delivers

theorem delivers_plan {component : Component} {scope : Scope}
    (componentDelivers : stepsDeliver component = true)
    (scopeDelivers : scope.delivers = true) :
    (component.plan scope).Delivers :=
  deliversAll_planWithin maxNesting component 0 componentDelivers scope _
    scopeDelivers fun _ _ => trivial

/-! ## Cut and whole -/

/-- A sink with limited room never holds more than that, and exactly that when
it is full. -/
theorem length_of_grows_limited {room : Nat} {whenFull : WhenFull} {sink : Sink}
    (grows : (Sink.limited room whenFull).Grows sink) :
    sink.bytes.length ≤ room ∧
      (sink.room = some 0 → sink.bytes.length = room) := by
  have limit := grows.limit
  simp only [Sink.limit?, Sink.limited, Sink.bytes, Option.map_some,
    List.length_nil, Nat.zero_add] at limit
  cases left : sink.room with
  | none =>
      rw [left] at limit
      cases limit
  | some free =>
      rw [left, Option.map_some, Option.some.injEq] at limit
      refine ⟨?_, ?_⟩
      · show sink.taken.toList.length ≤ room
        omega
      · intro full
        cases full
        exact limit

/-- Rendering into a limited sink leaves the first bytes of the whole output
there. -/
theorem render_limited {component : Component} {scope : Scope}
    (componentDelivers : stepsDeliver component = true)
    (scopeDelivers : scope.delivers = true) (room : Nat)
    (whenFull : WhenFull) :
    let whole := component.render scope .unlimited
    let cut := component.render scope (.limited room whenFull)
    cut.2.2.bytes = whole.2.2.bytes.take room ∧
      (whole.2.2.bytes.length ≤ room → cut.1 = whole.1) ∧
      (room < whole.2.2.bytes.length → ∃ cause, cut.1 = .error cause) := by
  intro whole cut
  have mirrors : Channel.Mirrors (.sink (.limited room whenFull))
      (.sink .unlimited) := .sink rfl rfl
  have cutsOff := Plan.cutsOff_execute
    (delivers_plan componentDelivers scopeDelivers) mirrors
  have grows := Plan.grows_execute (component.plan scope)
    (.sink (.limited room whenFull))
  rw [execute_plan] at grows
  rw [execute_plan, execute_plan] at cutsOff
  rcases length_of_grows_limited grows with ⟨atMost, whenNoRoom⟩
  rcases cutsOff with ⟨sameResult, sameBytes⟩ | ⟨fails, short⟩
  · refine ⟨?_, fun _ => sameResult, ?_⟩
    · rw [← sameBytes, List.take_of_length_le atMost]
    · intro excess
      rw [← sameBytes] at excess
      exact absurd atMost (Nat.not_le_of_lt excess)
  · have exactly := whenNoRoom short.full
    refine ⟨?_, ?_, fun _ => fails⟩
    · rw [← exactly]
      exact List.prefix_iff_eq_take.mp short.bytes
    · intro enough
      exact absurd enough (Nat.not_le_of_lt (exactly ▸ short.fewer))

/-- Everything that a component writes reaches an unlimited sink. -/
theorem reaches_end (component : Component) (scope : Scope) :
    let whole := component.render scope .unlimited
    Reaches (component.start scope .unlimited)
      (endMoment (whole.1, whole.2.2) whole.2.2.bytes) := by
  intro whole
  have ends : (component.start scope .unlimited).Ends :=
    ends_of_unlimited (component.plan scope) rfl []
  rcases ends with ⟨everything, reaches⟩
  have accounted := (accounted_start component scope .unlimited).reaches reaches
  rw [outcome_start] at accounted reaches
  have bytes : whole.2.2.bytes = everything := accounted.content
  rw [bytes]
  exact reaches

/-- Rendering is faithful.  A limited sink gets the first bytes of what an
unlimited one gets, the result is the same if that is everything and else an
error.  At every moment of a run on any sink, the bytes in the sink and then in
the buffers, the outermost first, are those written so far, and no buffer holds
more than its capacity.  A run on an unlimited sink ends with all that was
written in the sink. -/
theorem render_faithful {component : Component} {scope : Scope}
    (componentDelivers : stepsDeliver component = true)
    (scopeDelivers : scope.delivers = true) (room : Nat)
    (whenFull : WhenFull) :
    let whole := component.render scope .unlimited
    let cut := component.render scope (.limited room whenFull)
    cut.2.2.bytes = whole.2.2.bytes.take room ∧
      (whole.2.2.bytes.length ≤ room → cut.1 = whole.1) ∧
      (room < whole.2.2.bytes.length → ∃ cause, cut.1 = .error cause) ∧
      (∀ (sink : Sink) (moment : Moment),
        Reaches (component.start scope sink) moment →
        moment.channel.bottom.bytes ++ moment.channel.buffers.flatten =
            sink.bytes ++ moment.written ∧
          (∀ pending ∈ moment.channel.buffers,
            pending.length ≤ bufferCapacity) ∧
          moment.outcome = ((component.render scope sink).1,
            (component.render scope sink).2.2)) ∧
      Reaches (component.start scope .unlimited)
        (endMoment (whole.1, whole.2.2) whole.2.2.bytes) := by
  intro whole cut
  rcases render_limited componentDelivers scopeDelivers room whenFull with
    ⟨bytes, enough, excess⟩
  refine ⟨bytes, enough, excess, ?_, reaches_end component scope⟩
  intro sink moment reaches
  have accounted := (accounted_start component scope sink).reaches reaches
  refine ⟨?_, accounted.fits, ?_⟩
  · rw [Channel.flatten_buffers, ← Channel.content_eq]
    exact accounted.content
  · rw [Moment.outcome_reaches reaches, outcome_start]

/-- A page that gives up in its footer, after a part on a buffer of its own. -/
def receipt : Component :=
  [.write "<p>", .wrap [.write "paid", .flush, .embed [.write "</p>"]],
    .fork [.write "<hr>"] [.children, .fail "no footer"]]

theorem receipt_faithful :
    stepsDeliver receipt = true ∧ Scope.empty.delivers = true ∧
      (receipt.render .empty (.limited 5 .takesNothing)).2.2.bytes =
        Text.bytes "<p>pa" ∧
      (receipt.render .empty (.limited 5 .takesNothing)).1.isOk = false ∧
      (receipt.render .empty (.limited 20 .refuses)).1 =
        (receipt.render .empty .unlimited).1 := by
  have delivers : stepsDeliver receipt = true := by decide +kernel
  have scopeDelivers : Scope.empty.delivers = true := rfl
  have whole : (receipt.render .empty .unlimited).2.2.bytes =
      Text.bytes "<p>paid</p><hr>" := by decide +kernel
  rcases render_faithful delivers scopeDelivers 5 .takesNothing with
    ⟨bytes, _, excess, _⟩
  rcases render_faithful delivers scopeDelivers 20 .refuses with
    ⟨_, enough, _⟩
  rw [whole] at bytes excess enough
  rcases excess (by decide +kernel) with ⟨cause, failed⟩
  refine ⟨delivers, scopeDelivers, ?_, ?_, enough (by decide +kernel)⟩
  · rw [bytes]
    decide +kernel
  · rw [failed]
    rfl

end Templating.Render

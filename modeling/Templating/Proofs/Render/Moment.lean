import Mathlib.Logic.Relation
import Templating.Proofs.Render.Bounded

/-!
# Moments of a run

Between two operations of a run, everything written so far is in the sink or in
a buffer, in the order in which it was written: the sink has the first part, and
then come the buffers from the outermost to the innermost.  An operation that
succeeds keeps this up, and so does taking away the buffers of a run that gave
up, as long as the sink takes what they hold.
-/

namespace Templating.Render

/-- What is left of a run, its channel, and everything written so far. -/
structure Moment where
  depth : Nat
  plan : Plan depth
  channel : Channel depth
  written : Bytes

/-- One operation that succeeds brings a moment to the next. -/
inductive Advances : Moment → Moment → Prop where
  | write {depth : Nat} {data : Bytes} {next : Plan (depth + 1)}
      {channel after : Channel (depth + 1)} {written : Bytes}
      (ok : Channel.writeAll (depth + 1) channel data = (.ok (), after)) :
      Advances ⟨depth + 1, .write data next, channel, written⟩
        ⟨depth + 1, next, after, written ++ data⟩
  | offer {depth count : Nat} {data : Bytes} {next : Plan (depth + 1)}
      {channel after : Channel (depth + 1)} {written : Bytes}
      (ok : Channel.write (depth + 1) channel data = (.ok count, after)) :
      Advances ⟨depth + 1, .offer data next, channel, written⟩
        ⟨depth + 1, next, after, written ++ data.take count⟩
  | flush {depth : Nat} {next : Plan (depth + 1)}
      {channel after : Channel (depth + 1)} {written : Bytes}
      (ok : Channel.flush (depth + 1) channel = (.ok (), after)) :
      Advances ⟨depth + 1, .flush next, channel, written⟩
        ⟨depth + 1, next, after, written⟩
  | measure {depth : Nat} {next : Nat → Plan (depth + 1)}
      {channel : Channel (depth + 1)} {written : Bytes} :
      Advances ⟨depth + 1, .measure next, channel, written⟩
        ⟨depth + 1, next channel.buffered, channel, written⟩
  | enter {depth : Nat} {next : Plan (depth + 1)} {channel : Channel depth}
      {written : Bytes} :
      Advances ⟨depth, .enter next, channel, written⟩
        ⟨depth + 1, next, channel.onTop, written⟩
  | leave {depth : Nat} {next : Plan depth}
      {channel after : Channel (depth + 1)} {written : Bytes}
      (ok : Channel.flush (depth + 1) channel = (.ok (), after)) :
      Advances ⟨depth + 1, .leave next, channel, written⟩
        ⟨depth, next, after.drop, written⟩
  /-- A run that gave up takes a buffer away that can be handed down. -/
  | unwind {depth : Nat} {cause : OutputError} {pending rest written : Bytes}
      {below after : Channel depth}
      (ok : handDown (Channel.write depth) below pending =
        (.ok (), rest, after)) :
      Advances ⟨depth + 1, .fail cause, .buffer pending below, written⟩
        ⟨depth, .fail cause, after, written⟩

/-- Operations that succeed bring a moment to another. -/
abbrev Reaches : Moment → Moment → Prop :=
  Relation.ReflTransGen Advances

/-- The moment before a component is rendered. -/
def Component.start (component : Component) (scope : Scope) (sink : Sink) :
    Moment :=
  ⟨0, component.plan scope, .sink sink, []⟩

namespace Moment

/-- How the run ends from the moment on. -/
def outcome (moment : Moment) : Except OutputError Unit × Sink :=
  moment.plan.execute moment.channel

theorem outcome_advances {moment after : Moment}
    (advances : Advances moment after) : after.outcome = moment.outcome := by
  cases advances with
  | write ok => simp only [outcome, Plan.execute, ok, Plan.proceed]
  | offer ok => simp only [outcome, Plan.execute, ok, Except.map, Plan.proceed]
  | flush ok => simp only [outcome, Plan.execute, ok, Plan.proceed]
  | measure => rfl
  | enter => rfl
  | leave ok => simp only [outcome, Plan.execute, ok, Plan.proceed]
  | unwind ok =>
      simp only [outcome, Plan.execute, Channel.dropAll, Channel.drop, ok]

/-- Everything that was there before or was written is accounted for, and no
buffer holds too much. -/
structure Accounted (before : Bytes) (moment : Moment) : Prop where
  content : moment.channel.content = before ++ moment.written
  fits : moment.channel.Fits

theorem Accounted.advances {before : Bytes} {moment after : Moment}
    (accounted : moment.Accounted before) (advances : Advances moment after) :
    after.Accounted before := by
  rcases accounted with ⟨content, fits⟩
  cases advances with
  | @write _ data _ _ _ _ ok =>
      have kept := fits.writeAll data
      simp only [ok] at kept
      simp only at content
      refine ⟨?_, kept⟩
      rw [Channel.content_writeAll ok, content, List.append_assoc]
  | @offer _ _ data _ channel _ _ ok =>
      have kept := fits.write data
      have appended := Channel.content_write _ channel data
      simp only [ok] at kept appended
      simp only at content
      refine ⟨?_, kept⟩
      rw [appended, takenOf, content, List.append_assoc]
  | @flush _ _ channel _ _ ok =>
      have kept := fits.flush
      have same := Channel.content_flush _ channel
      simp only [ok] at kept same
      exact ⟨same.trans content, kept⟩
  | measure => exact ⟨content, fits⟩
  | enter =>
      refine ⟨?_, fits.onTop⟩
      rw [Channel.content_onTop]
      exact content
  | leave ok =>
      have kept := fits.flush
      simp only [ok] at kept
      exact ⟨(Channel.content_drop_flush ok).trans content, kept.drop⟩
  | @unwind _ _ pending _ _ below _ ok =>
      have kept := fits.drop
      have moved :=
        Channel.content_handDown (Channel.content_write _) below pending
      simp only [Channel.drop, ok] at kept moved
      rw [Channel.handDown_ok ok, List.append_nil] at moved
      exact ⟨moved.trans content, kept⟩

theorem Accounted.reaches {before : Bytes} {moment after : Moment}
    (accounted : moment.Accounted before) (reaches : Reaches moment after) :
    after.Accounted before := by
  induction reaches with
  | refl => exact accounted
  | tail _ advances inductionHypothesis =>
      exact inductionHypothesis.advances advances

theorem outcome_reaches {moment after : Moment}
    (reaches : Reaches moment after) : after.outcome = moment.outcome := by
  induction reaches with
  | refl => rfl
  | tail _ advances inductionHypothesis =>
      rw [outcome_advances advances, inductionHypothesis]

end Moment

/-- Before a component is rendered, all is accounted for. -/
theorem accounted_start (component : Component) (scope : Scope) (sink : Sink) :
    (component.start scope sink).Accounted sink.bytes :=
  ⟨(List.append_nil _).symm, Channel.fits_sink sink⟩

theorem outcome_start (component : Component) (scope : Scope) (sink : Sink) :
    (component.start scope sink).outcome =
      ((component.render scope sink).1, (component.render scope sink).2.2) :=
  execute_plan component scope sink

/-! ## The end of a run -/

/-- What is left of a run that is over. -/
def Plan.ending : Except OutputError Unit → Plan 0
  | .ok _ => .done
  | .error cause => .fail cause

/-- The moment at which a run is over. -/
def endMoment (outcome : Except OutputError Unit × Sink) (written : Bytes) :
    Moment :=
  ⟨0, .ending outcome.1, .sink outcome.2, written⟩

/-- The run comes to its end. -/
def Moment.Ends (moment : Moment) : Prop :=
  ∃ everything, Reaches moment (endMoment moment.outcome everything)

theorem Moment.Ends.before {moment after : Moment} (ends : after.Ends)
    (advances : Advances moment after) : moment.Ends := by
  rcases ends with ⟨everything, reaches⟩
  rw [outcome_advances advances] at reaches
  exact ⟨everything, .head advances reaches⟩

variable {depth : Nat}

theorem ends_fail (cause : OutputError) {channel : Channel depth}
    (unlimited : channel.bottom.room = none) (written : Bytes) :
    Moment.Ends ⟨depth, .fail cause, channel, written⟩ := by
  induction depth with
  | zero =>
      cases channel with
      | sink target => exact ⟨written, .refl⟩
  | succ depth inductionHypothesis =>
      cases channel with
      | buffer pending below =>
          have unlimitedBelow : below.bottom.room = none := unlimited
          have handed := Channel.handDown_of_unlimited
            Channel.write_of_unlimited pending unlimitedBelow
          have still := (Channel.grows_handDown Channel.grows_write below
            pending).unlimited unlimitedBelow
          exact (inductionHypothesis still).before (.unwind (Prod.ext handed rfl))

/-- Above an unlimited sink every run comes to its end. -/
theorem ends_of_unlimited (plan : Plan depth) {channel : Channel depth}
    (unlimited : channel.bottom.room = none) (written : Bytes) :
    Moment.Ends ⟨depth, plan, channel, written⟩ := by
  induction plan generalizing written with
  | done =>
      cases channel with
      | sink target => exact ⟨written, .refl⟩
  | fail cause => exact ends_fail cause unlimited written
  | write data next inductionHypothesis =>
      have ok := Channel.writeAll_of_unlimited data unlimited
      have still := (channel.grows_writeAll data).unlimited unlimited
      exact (inductionHypothesis still _).before (.write (Prod.ext ok rfl))
  | offer data next inductionHypothesis =>
      have ok := Channel.write_of_unlimited data unlimited
      have still := (channel.grows_write data).unlimited unlimited
      exact (inductionHypothesis still _).before (.offer (Prod.ext ok rfl))
  | flush next inductionHypothesis =>
      have ok := Channel.flush_of_unlimited unlimited
      have still := channel.grows_flush.unlimited unlimited
      exact (inductionHypothesis still _).before (.flush (Prod.ext ok rfl))
  | measure next inductionHypothesis =>
      exact (inductionHypothesis channel.buffered unlimited _).before .measure
  | enter next inductionHypothesis =>
      have still := (congrArg Sink.room channel.bottom_onTop).trans unlimited
      exact (inductionHypothesis still _).before .enter
  | leave next inductionHypothesis =>
      have ok := Channel.flush_of_unlimited unlimited
      have still := (channel.grows_flush.trans
        (Channel.grows_drop _)).unlimited unlimited
      exact (inductionHypothesis still _).before (.leave (Prod.ext ok rfl))

end Templating.Render

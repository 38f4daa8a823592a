import Templating.Proofs.Render.Plan

/-!
# Plans above a bounded sink

A plan whose writes all deliver is executed above a sink with limited room and
above an unlimited one.  Up to the first byte that does not fit, both executions
do the same; then the limited sink is full, so it keeps what it has, and what it
lacks stays in a buffer or was reported.  In the end that is an error.
-/

namespace Templating

namespace Channel

variable {depth other : Nat}

/-- More went into the channel than its sink, which is full, will ever take. -/
structure Stuck (channel : Channel depth) : Prop where
  full : channel.bottom.room = some 0
  excess : channel.bottom.bytes.length < channel.content.length

theorem Stuck.later {channel : Channel depth} {after : Channel other}
    (stuck : channel.Stuck) (grows : channel.bottom.Grows after.bottom)
    (kept : channel.content.length ≤ after.content.length) : after.Stuck := by
  have same := grows.full stuck.full
  constructor
  · rw [same, stuck.full]
  · rw [same]
    exact Nat.lt_of_lt_of_le stuck.excess kept

theorem not_stuck (channel : Channel 0) : ¬channel.Stuck := by
  intro stuck
  cases channel with
  | sink target => exact Nat.lt_irrefl _ stuck.excess

/-- A channel is stuck if its sink is short of bytes that went into the channel
as well. -/
theorem Stuck.of_short {channel whole : Channel depth}
    (short : channel.bottom.Short whole.bottom)
    (content : channel.content = whole.content) : channel.Stuck := by
  refine ⟨short.full, Nat.lt_of_lt_of_le short.fewer ?_⟩
  rw [content, content_eq, List.length_append]
  exact Nat.le_add_right _ _

theorem grows_dropAll (channel : Channel depth) :
    channel.bottom.Grows channel.dropAll := by
  induction depth with
  | zero =>
      rw [dropAll_eq]
      exact .refl _
  | succ depth inductionHypothesis =>
      exact (grows_drop channel).trans (inductionHypothesis channel.drop)

theorem tracks_dropAll {channel whole : Channel depth}
    (mirrors : channel.Mirrors whole) :
    channel.dropAll.bytes = whole.dropAll.bytes ∨
      channel.dropAll.Short whole.dropAll := by
  induction depth with
  | zero =>
      rw [dropAll_eq, dropAll_eq]
      exact .inl mirrors.bytes
  | succ depth inductionHypothesis =>
      rcases tracks_drop mirrors with ⟨_, behind⟩ | short
      · exact inductionHypothesis behind
      · exact .inr (short.grows (grows_dropAll channel.drop)
          (grows_dropAll whole.drop))

end Channel

namespace Render

namespace Plan

variable {depth : Nat}

/-- All writes of the plan deliver their bytes or fail. -/
def Delivers : {depth : Nat} → Plan depth → Prop
  | _, .done => True
  | _, .fail _ => True
  | _, .write _ next => next.Delivers
  | _, .offer _ _ => False
  | _, .flush next => next.Delivers
  | _, .measure next => ∀ buffered, (next buffered).Delivers
  | _, .enter next => next.Delivers
  | _, .leave next => next.Delivers

/-! ## One execution -/

theorem grows_proceed {next : Channel depth → Except OutputError Unit × Sink}
    (grows : ∀ channel : Channel depth, channel.bottom.Grows (next channel).2)
    (result : Except OutputError Unit) (channel : Channel depth) :
    channel.bottom.Grows (proceed next (result, channel)).2 := by
  cases result with
  | error cause => exact channel.grows_dropAll
  | ok _ => exact grows channel

theorem grows_execute (plan : Plan depth) (channel : Channel depth) :
    channel.bottom.Grows (plan.execute channel).2 := by
  induction plan with
  | done => exact .refl _
  | fail cause => exact channel.grows_dropAll
  | write data next inductionHypothesis =>
      exact (channel.grows_writeAll data).trans
        (grows_proceed inductionHypothesis _ _)
  | offer data next inductionHypothesis =>
      exact (channel.grows_write data).trans
        (grows_proceed inductionHypothesis _ _)
  | flush next inductionHypothesis =>
      exact channel.grows_flush.trans (grows_proceed inductionHypothesis _ _)
  | measure next inductionHypothesis =>
      exact inductionHypothesis channel.buffered channel
  | enter next inductionHypothesis => exact inductionHypothesis channel.onTop
  | leave next inductionHypothesis =>
      exact (channel.grows_flush.trans (Channel.grows_drop _)).trans
        (grows_proceed inductionHypothesis _ _)

/-- The outcome is an error. -/
def Fails (outcome : Except OutputError Unit × Sink) : Prop :=
  ∃ cause, outcome.1 = .error cause

theorem fails_proceed {next : Channel depth → Except OutputError Unit × Sink}
    (fails : ∀ {channel : Channel depth}, channel.Stuck → Fails (next channel))
    {result : Except OutputError Unit} {channel : Channel depth}
    (stuck : result = .ok () → channel.Stuck) :
    Fails (proceed next (result, channel)) := by
  cases result with
  | error cause => exact ⟨cause, rfl⟩
  | ok _ => exact fails (stuck rfl)

/-- Above a stuck channel a plan cannot succeed. -/
theorem fails_execute {plan : Plan depth} (delivers : plan.Delivers)
    {channel : Channel depth} (stuck : channel.Stuck) :
    Fails (plan.execute channel) := by
  induction plan with
  | done => exact absurd stuck channel.not_stuck
  | fail cause => exact ⟨cause, rfl⟩
  | write data next inductionHypothesis =>
      apply fails_proceed (fun stuck => inductionHypothesis delivers stuck)
      intro ok
      apply stuck.later (channel.grows_writeAll data)
      rw [Channel.content_writeAll (Prod.ext ok rfl), List.length_append]
      exact Nat.le_add_right _ _
  | offer data next => exact delivers.elim
  | flush next inductionHypothesis =>
      apply fails_proceed (fun stuck => inductionHypothesis delivers stuck)
      intro _
      apply stuck.later channel.grows_flush
      exact Nat.le_of_eq (by rw [Channel.content_flush])
  | measure next inductionHypothesis =>
      exact inductionHypothesis channel.buffered (delivers _) stuck
  | enter next inductionHypothesis =>
      apply inductionHypothesis delivers
      refine ⟨stuck.full, ?_⟩
      rw [Channel.content_onTop]
      exact stuck.excess
  | leave next inductionHypothesis =>
      apply fails_proceed (fun stuck => inductionHypothesis delivers stuck)
      intro ok
      apply stuck.later (channel.grows_flush.trans (Channel.grows_drop _))
      exact Nat.le_of_eq (by rw [Channel.content_drop_flush (Prod.ext ok rfl)])

/-! ## Two executions -/

/-- The outcomes are the same, or the first is an error that left a full sink
with some of the bytes of the second. -/
def CutsOff (cut whole : Except OutputError Unit × Sink) : Prop :=
  cut.1 = whole.1 ∧ cut.2.bytes = whole.2.bytes ∨
    Fails cut ∧ cut.2.Short whole.2

theorem cutsOff_dropAll {channel whole : Channel depth} (cause : OutputError)
    (mirrors : channel.Mirrors whole) :
    CutsOff (.error cause, channel.dropAll) (.error cause, whole.dropAll) := by
  rcases Channel.tracks_dropAll mirrors with same | short
  · exact .inl ⟨rfl, same⟩
  · exact .inr ⟨⟨cause, rfl⟩, short⟩

/-- If an operation ran short, so does what comes after it. -/
theorem cutsOff_proceed (next : Plan depth) (delivers : next.Delivers)
    (cutsOff : ∀ {channel whole : Channel depth}, channel.Mirrors whole →
      CutsOff (next.execute channel) (next.execute whole))
    {result wholeResult : Except OutputError Unit}
    {channel whole : Channel depth}
    (tracks : Channel.Tracks (result = wholeResult) channel whole)
    (content : result = .ok () → channel.content = whole.content) :
    CutsOff (proceed next.execute (result, channel))
      (proceed next.execute (wholeResult, whole)) := by
  rcases tracks with ⟨rfl, mirrors⟩ | short
  · cases result with
    | error cause => exact cutsOff_dropAll cause mirrors
    | ok _ => exact cutsOff mirrors
  · right
    constructor
    · apply fails_proceed (fun stuck => fails_execute delivers stuck)
      intro ok
      exact .of_short short (content ok)
    · exact short.grows (grows_proceed next.grows_execute _ _)
        (grows_proceed next.grows_execute _ _)

theorem cutsOff_execute {plan : Plan depth} (delivers : plan.Delivers)
    {channel whole : Channel depth} (mirrors : channel.Mirrors whole) :
    CutsOff (plan.execute channel) (plan.execute whole) := by
  induction plan with
  | done => exact .inl ⟨rfl, mirrors.bytes⟩
  | fail cause => exact cutsOff_dropAll cause mirrors
  | write data next inductionHypothesis =>
      apply cutsOff_proceed next delivers
        (fun mirrors => inductionHypothesis delivers mirrors)
        (Channel.tracks_writeAll data mirrors)
      intro ok
      have wholeOk := Channel.writeAll_of_unlimited data mirrors.unlimited
      rw [Channel.content_writeAll (Prod.ext ok rfl),
        Channel.content_writeAll (Prod.ext wholeOk rfl), mirrors.content]
  | offer data next => exact delivers.elim
  | flush next inductionHypothesis =>
      apply cutsOff_proceed next delivers
        (fun mirrors => inductionHypothesis delivers mirrors)
        (Channel.tracks_flush mirrors)
      intro _
      rw [Channel.content_flush, Channel.content_flush, mirrors.content]
  | measure next inductionHypothesis =>
      rw [execute, execute, mirrors.buffered]
      exact inductionHypothesis _ (delivers _) mirrors
  | enter next inductionHypothesis =>
      exact inductionHypothesis delivers mirrors.onTop
  | leave next inductionHypothesis =>
      apply cutsOff_proceed next delivers
        (fun mirrors => inductionHypothesis delivers mirrors)
        (Channel.tracks_leave mirrors)
      intro ok
      have wholeOk := Channel.flush_of_unlimited mirrors.unlimited
      rw [Channel.content_drop_flush (Prod.ext ok rfl),
        Channel.content_drop_flush (Prod.ext wholeOk rfl), mirrors.content]

end Plan

end Render

end Templating

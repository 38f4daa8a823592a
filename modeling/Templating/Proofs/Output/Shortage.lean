import Templating.Proofs.Output.Growth

/-!
# Sinks that run short

Two channels with the same buffers, one above an unlimited sink, give the same
results and keep the same buffers until the sink of the other is full and short
of bytes that the unlimited one has.  From then on that sink stays as it is.
It may take a while until this shows as an error: what a full sink leaves over
of a large write can still be stored in a buffer between.
-/

namespace Templating

namespace Sink

/-- The first sink is full and has only some of the bytes of the second. -/
structure Short (cut whole : Sink) : Prop where
  full : cut.room = some 0
  bytes : cut.bytes <+: whole.bytes
  fewer : cut.bytes.length < whole.bytes.length

theorem Short.grows {cut whole later more : Sink} (short : cut.Short whole)
    (stays : cut.Grows later) (grows : whole.Grows more) : later.Short more := by
  have same := stays.full short.full
  subst same
  exact ⟨short.full, short.bytes.trans grows.bytes,
    Nat.lt_of_lt_of_le short.fewer grows.bytes.length_le⟩

/-- Of two sinks with the same bytes, one of them unlimited, both take
everything or the other runs short. -/
theorem take_or_short {cut whole : Sink} (bytes : cut.bytes = whole.bytes)
    (unlimited : whole.room = none) (data : Bytes) :
    cut.acceptance data = data.length ∧
        (cut.take data).bytes = (whole.take data).bytes ∨
      (cut.take data).Short (whole.take data) := by
  have all : (whole.take data).bytes = cut.bytes ++ data := by
    rw [bytes_take, acceptance, unlimited, List.take_length, bytes]
  by_cases fits : cut.acceptance data = data.length
  · left
    rw [all, bytes_take, fits, List.take_length]
    exact ⟨rfl, rfl⟩
  · right
    cases room : cut.room with
    | none =>
        rw [acceptance, room] at fits
        exact absurd rfl fits
    | some left =>
        have inside : left < data.length := by
          rw [acceptance, room] at fits
          simp only at fits
          omega
        have part : cut.acceptance data = left := by
          rw [acceptance, room]
          exact Nat.min_eq_left (Nat.le_of_lt inside)
        constructor
        · rw [room_take, room, Option.map_some,
            Nat.sub_eq_zero_of_le (Nat.le_of_lt inside)]
        · rw [all, bytes_take]
          exact (List.prefix_append_right_inj _).mpr (List.take_prefix _ _)
        · rw [all, bytes_take, part, List.length_append, List.length_append,
            List.length_take]
          omega

end Sink

namespace Channel

variable {depth : Nat}

/-- Equal buffers above sinks that took the same, the second of which is
unlimited. -/
inductive Mirrors : {depth : Nat} → Channel depth → Channel depth → Prop where
  | sink {cut whole : Sink} (bytes : cut.bytes = whole.bytes)
      (unlimited : whole.room = none) :
      Mirrors (.sink cut) (.sink whole)
  | buffer {depth : Nat} {below other : Channel depth} (pending : Bytes)
      (mirrors : Mirrors below other) :
      Mirrors (.buffer pending below) (.buffer pending other)

theorem Mirrors.content {channel other : Channel depth}
    (mirrors : channel.Mirrors other) : channel.content = other.content := by
  induction mirrors with
  | sink bytes unlimited => exact bytes
  | buffer pending mirrors inductionHypothesis =>
      rw [content_buffer, content_buffer, inductionHypothesis]

theorem Mirrors.bytes {channel other : Channel depth}
    (mirrors : channel.Mirrors other) :
    channel.bottom.bytes = other.bottom.bytes := by
  induction mirrors with
  | sink bytes unlimited => exact bytes
  | buffer pending mirrors inductionHypothesis => exact inductionHypothesis

theorem Mirrors.unlimited {channel other : Channel depth}
    (mirrors : channel.Mirrors other) : other.bottom.room = none := by
  induction mirrors with
  | sink bytes unlimited => exact unlimited
  | buffer pending mirrors inductionHypothesis => exact inductionHypothesis

theorem Mirrors.buffered {channel other : Channel (depth + 1)}
    (mirrors : channel.Mirrors other) : channel.buffered = other.buffered := by
  cases mirrors with
  | buffer pending mirrors => rfl

theorem Mirrors.onTop {channel other : Channel depth}
    (mirrors : channel.Mirrors other) : channel.onTop.Mirrors other.onTop :=
  .buffer [] mirrors

/-- Two operations gave the same and left equal buffers, or the first ran
short. -/
def Tracks (same : Prop) (channel other : Channel depth) : Prop :=
  same ∧ channel.Mirrors other ∨ channel.bottom.Short other.bottom

section HandDown

variable {offer : Channel depth → Bytes → Except OutputError Nat × Channel depth}

theorem tracks_handDown
    (grows : ∀ (receiver : Channel depth) (data : Bytes),
      receiver.bottom.Grows (offer receiver data).2.bottom)
    (tracks : ∀ {channel other : Channel depth} (data : Bytes),
      channel.Mirrors other →
        Tracks ((offer channel data).1 = (offer other data).1)
          (offer channel data).2 (offer other data).2)
    {receiver other : Channel depth} (pending : Bytes)
    (mirrors : receiver.Mirrors other) :
    Tracks
      ((handDown offer receiver pending).1 = (handDown offer other pending).1 ∧
        (handDown offer receiver pending).2.1 =
          (handDown offer other pending).2.1)
      (handDown offer receiver pending).2.2
      (handDown offer other pending).2.2 := by
  by_cases empty : pending.isEmpty = true
  · rw [handDown, handDown, if_pos empty, if_pos empty]
    exact .inl ⟨⟨rfl, rfl⟩, mirrors⟩
  · rcases tracks pending mirrors with ⟨same, behind⟩ | short
    · rw [handDown, handDown, if_neg empty, if_neg empty]
      revert same behind
      rcases offer receiver pending with ⟨result, after⟩
      rcases offer other pending with ⟨_, afterOther⟩
      rintro ⟨⟩ behind
      cases result with
      | error cause => exact .inl ⟨⟨rfl, rfl⟩, behind⟩
      | ok count =>
          cases count with
          | zero => exact .inl ⟨⟨rfl, rfl⟩, behind⟩
          | succ taken =>
              exact tracks_handDown grows tracks (pending.drop (taken + 1))
                behind
    · exact .inr (short.grows
        (grows_handDown_offer grows receiver pending empty)
        (grows_handDown_offer grows other pending empty))
termination_by pending.length
decreasing_by
  have nonempty : 0 < pending.length := by
    rwa [List.length_pos_iff, ne_eq, ← List.isEmpty_iff]
  simp only [List.length_drop]
  omega

theorem tracks_makeRoom
    (grows : ∀ (receiver : Channel depth) (data : Bytes),
      receiver.bottom.Grows (offer receiver data).2.bottom)
    (tracks : ∀ {channel other : Channel depth} (data : Bytes),
      channel.Mirrors other →
        Tracks ((offer channel data).1 = (offer other data).1)
          (offer channel data).2 (offer other data).2)
    {below other : Channel depth} (pending data : Bytes)
    (mirrors : below.Mirrors other) :
    Tracks
      ((makeRoom offer pending below data).1 =
          (makeRoom offer pending other data).1 ∧
        (makeRoom offer pending below data).2.1 =
          (makeRoom offer pending other data).2.1)
      (makeRoom offer pending below data).2.2
      (makeRoom offer pending other data).2.2 := by
  rw [makeRoom, makeRoom]
  split
  · exact tracks_handDown grows tracks pending mirrors
  · exact .inl ⟨⟨rfl, rfl⟩, mirrors⟩

end HandDown

theorem tracks_writeThrough {α : Type}
    {past : Channel depth → Except OutputError α × Channel depth}
    (tracks : ∀ {channel other : Channel depth} (data : Bytes),
      channel.Mirrors other →
        Tracks ((write depth channel data).1 = (write depth other data).1)
          (write depth channel data).2 (write depth other data).2)
    (growsPast : ∀ channel : Channel depth,
      channel.bottom.Grows (past channel).2.bottom)
    (tracksPast : ∀ {channel other : Channel depth}, channel.Mirrors other →
      Tracks ((past channel).1 = (past other).1) (past channel).2
        (past other).2)
    (stored : α) {below other : Channel depth} (pending data : Bytes)
    (mirrors : below.Mirrors other) :
    Tracks
      ((writeThrough past stored pending below data).1 =
        (writeThrough past stored pending other data).1)
      (writeThrough past stored pending below data).2
      (writeThrough past stored pending other data).2 := by
  rcases tracks_makeRoom grows_write tracks pending data mirrors with
    ⟨same, behind⟩ | short
  · rw [writeThrough, writeThrough]
    revert same behind
    rcases makeRoom (write depth) pending below data with
      ⟨result, rest, after⟩
    rcases makeRoom (write depth) pending other data with ⟨_, _, afterOther⟩
    rintro ⟨⟨⟩, ⟨⟩⟩ behind
    cases result with
    | error cause => exact .inl ⟨rfl, .buffer rest behind⟩
    | ok _ =>
        simp only
        split
        · rcases tracksPast behind with ⟨equal, later⟩ | short
          · exact .inl ⟨equal, .buffer rest later⟩
          · exact .inr short
        · exact .inl ⟨rfl, .buffer _ behind⟩
  · exact .inr (short.grows
      (grows_writeThrough_makeRoom growsPast stored pending below data)
      (grows_writeThrough_makeRoom growsPast stored pending other data))

theorem tracks_write {channel other : Channel depth} (data : Bytes)
    (mirrors : channel.Mirrors other) :
    Tracks ((write depth channel data).1 = (write depth other data).1)
      (write depth channel data).2 (write depth other data).2 := by
  induction depth generalizing data with
  | zero =>
      cases mirrors with
      | @sink cut whole bytes unlimited =>
          have all := Sink.acceptance_unlimited unlimited data
          show Tracks ((cut.write data).1 = (whole.write data).1)
            (.sink (cut.write data).2) (.sink (whole.write data).2)
          rw [Sink.write_snd, Sink.write_snd, Sink.write_of_fits all]
          rcases Sink.take_or_short bytes unlimited data with
            ⟨fits, same⟩ | short
          · rw [Sink.write_of_fits fits]
            exact .inl ⟨rfl, .sink same
              ((Sink.grows_take whole data).unlimited unlimited)⟩
          · exact .inr short
  | succ depth inductionHypothesis =>
      cases mirrors with
      | buffer pending mirrors =>
          rw [write_eq_writeThrough, write_eq_writeThrough]
          exact tracks_writeThrough inductionHypothesis
            (fun channel => grows_write channel data)
            (fun mirrors => inductionHypothesis data mirrors) _ pending data
            mirrors

theorem tracks_writeAll {channel other : Channel depth} (data : Bytes)
    (mirrors : channel.Mirrors other) :
    Tracks ((writeAll depth channel data).1 = (writeAll depth other data).1)
      (writeAll depth channel data).2 (writeAll depth other data).2 := by
  induction depth with
  | zero =>
      cases mirrors with
      | @sink cut whole bytes unlimited =>
          have all := Sink.acceptance_unlimited unlimited data
          show Tracks ((cut.writeAll data).1 = (whole.writeAll data).1)
            (.sink (cut.writeAll data).2) (.sink (whole.writeAll data).2)
          rw [Sink.writeAll_snd, Sink.writeAll_snd, Sink.writeAll_of_fits all]
          rcases Sink.take_or_short bytes unlimited data with
            ⟨fits, same⟩ | short
          · rw [Sink.writeAll_of_fits fits]
            exact .inl ⟨rfl, .sink same
              ((Sink.grows_take whole data).unlimited unlimited)⟩
          · exact .inr short
  | succ depth inductionHypothesis =>
      cases mirrors with
      | buffer pending mirrors =>
          rw [writeAll_eq_writeThrough, writeAll_eq_writeThrough]
          exact tracks_writeThrough tracks_write
            (fun channel => grows_writeAll channel data)
            inductionHypothesis _ pending data mirrors

theorem tracks_flush {channel other : Channel depth}
    (mirrors : channel.Mirrors other) :
    Tracks ((flush depth channel).1 = (flush depth other).1)
      (flush depth channel).2 (flush depth other).2 := by
  induction depth with
  | zero => exact .inl ⟨rfl, mirrors⟩
  | succ depth inductionHypothesis =>
      cases mirrors with
      | @buffer _ below other pending mirrors =>
          have tracks := tracks_handDown grows_write tracks_write pending
            mirrors
          rcases tracks with ⟨same, behind⟩ | short
          · rw [flush_buffer, flush_buffer]
            revert same behind
            rcases handDown (write depth) below pending with
              ⟨result, rest, after⟩
            rcases handDown (write depth) other pending with
              ⟨_, _, afterOther⟩
            rintro ⟨⟨⟩, ⟨⟩⟩ behind
            cases result with
            | error cause => exact .inl ⟨rfl, .buffer rest behind⟩
            | ok _ =>
                rcases inductionHypothesis behind with ⟨equal, later⟩ | short
                · exact .inl ⟨equal, .buffer rest later⟩
                · exact .inr short
          · exact .inr (short.grows
              (grows_flush_handDown grows_flush pending below)
              (grows_flush_handDown grows_flush pending other))

theorem tracks_drop {channel other : Channel (depth + 1)}
    (mirrors : channel.Mirrors other) :
    Tracks True channel.drop other.drop := by
  cases mirrors with
  | buffer pending mirrors =>
      rcases tracks_handDown grows_write tracks_write pending mirrors with
        ⟨_, behind⟩ | short
      · exact .inl ⟨trivial, behind⟩
      · exact .inr short

/-- A buffer that is flushed and taken away. -/
theorem tracks_leave {channel other : Channel (depth + 1)}
    (mirrors : channel.Mirrors other) :
    Tracks ((flush (depth + 1) channel).1 = (flush (depth + 1) other).1)
      (flush (depth + 1) channel).2.drop (flush (depth + 1) other).2.drop := by
  rcases tracks_flush mirrors with ⟨same, behind⟩ | short
  · rcases tracks_drop behind with ⟨_, later⟩ | short
    · exact .inl ⟨same, later⟩
    · exact .inr short
  · exact .inr (short.grows (grows_drop _) (grows_drop _))

end Channel

end Templating

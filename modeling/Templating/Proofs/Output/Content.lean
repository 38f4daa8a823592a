import Templating.Output.Channel

/-!
# The content of a channel

The content of a channel is what its sink took, followed by what its buffers
hold.  A write appends what was taken of it to the content, wherever the bytes
end up, and handing a buffer down moves bytes without changing the content.
-/

namespace Templating

/-- How much of a write was taken; a refused write took nothing. -/
def takenOf : Except OutputError Nat → Nat
  | .ok count => count
  | .error _ => 0

namespace Sink

theorem acceptance_le_length (sink : Sink) (data : Bytes) :
    sink.acceptance data ≤ data.length := by
  rw [acceptance]
  split
  · exact Nat.le_refl _
  · exact Nat.min_le_right _ _

theorem bytes_take (sink : Sink) (data : Bytes) :
    (sink.take data).bytes =
      sink.bytes ++ data.take (sink.acceptance data) := by
  simp [take, bytes]

theorem write_bytes (sink : Sink) (data : Bytes) :
    (sink.write data).2.bytes =
      sink.bytes ++ data.take (takenOf (sink.write data).1) := by
  rw [write]
  split
  · cases sink.whenFull <;> simp [takenOf]
  · exact bytes_take sink data

/-- A delivery appends a first part of the data, and all of it if and only if it
succeeds. -/
theorem writeAll_appends (sink : Sink) (data : Bytes) :
    ∃ part, part <+: data ∧
      (sink.writeAll data).2.bytes = sink.bytes ++ part ∧
      ((sink.writeAll data).1 = .ok () ↔ part.length = data.length) := by
  refine ⟨data.take (sink.acceptance data), List.take_prefix _ _, ?_⟩
  have bytes := bytes_take sink data
  rw [List.length_take, Nat.min_eq_left (acceptance_le_length sink data), writeAll]
  split
  · rename_i less
    cases sink.whenFull <;> exact ⟨bytes, by simp [Nat.ne_of_lt less]⟩
  · rename_i enough
    have whole := Nat.le_antisymm (acceptance_le_length sink data)
      (Nat.not_lt.mp enough)
    exact ⟨bytes, by simp [whole]⟩

end Sink

namespace Channel

/-- What went into a channel so far. -/
def content : {depth : Nat} → Channel depth → Bytes
  | _, .sink target => target.bytes
  | _, .buffer pending below => below.content ++ pending

@[simp]
theorem content_sink (target : Sink) :
    (Channel.sink target).content = target.bytes := rfl

@[simp]
theorem content_buffer {depth : Nat} (pending : Bytes) (below : Channel depth) :
    (Channel.buffer pending below).content = below.content ++ pending := rfl

theorem content_eq {depth : Nat} (channel : Channel depth) :
    channel.content = channel.bottom.bytes ++ channel.held := by
  induction channel with
  | sink target => simp [content, bottom, held]
  | buffer pending below inductionHypothesis =>
      rw [content_buffer, inductionHypothesis, List.append_assoc]
      rfl

@[simp]
theorem content_onTop {depth : Nat} (channel : Channel depth) :
    channel.onTop.content = channel.content := by
  simp [onTop]

/-- Handing down moves bytes from the buffer to the receiver. -/
theorem content_handDown {depth : Nat}
    {offer : Channel depth → Bytes → Except OutputError Nat × Channel depth}
    (appends : ∀ receiver data, (offer receiver data).2.content =
      receiver.content ++ data.take (takenOf (offer receiver data).1))
    (receiver : Channel depth) (pending : Bytes) :
    (handDown offer receiver pending).2.2.content ++
        (handDown offer receiver pending).2.1 =
      receiver.content ++ pending := by
  induction receiver, pending using handDown.induct offer with
  | case1 receiver pending empty =>
      rw [handDown, if_pos empty, List.isEmpty_iff.mp empty]
  | case2 receiver pending nonempty cause after offered =>
      have content := appends receiver pending
      rw [offered, takenOf, List.take_zero, List.append_nil] at content
      rw [handDown, if_neg nonempty, offered]
      simp only [content]
  | case3 receiver pending nonempty after offered =>
      have content := appends receiver pending
      rw [offered, takenOf, List.take_zero, List.append_nil] at content
      rw [handDown, if_neg nonempty, offered]
      simp only [content]
  | case4 receiver pending nonempty after taken offered inductionHypothesis =>
      have content := appends receiver pending
      rw [offered, takenOf] at content
      rw [handDown, if_neg nonempty, offered]
      simp only
      rw [inductionHypothesis, content, List.append_assoc,
        List.take_append_drop]

/-- A buffer that was handed down is empty. -/
theorem handDown_ok {σ : Type}
    {offer : σ → Bytes → Except OutputError Nat × σ} {receiver after : σ}
    {pending rest : Bytes}
    (ok : handDown offer receiver pending = (.ok (), rest, after)) :
    rest = [] := by
  induction receiver, pending using handDown.induct offer with
  | case1 receiver pending empty =>
      rw [handDown, if_pos empty] at ok
      simp only [Prod.mk.injEq] at ok
      exact ok.2.1.symm
  | case2 receiver pending nonempty cause refusing offered =>
      rw [handDown, if_neg nonempty, offered] at ok
      simp at ok
  | case3 receiver pending nonempty refusing offered =>
      rw [handDown, if_neg nonempty, offered] at ok
      simp at ok
  | case4 receiver pending nonempty next taken offered inductionHypothesis =>
      rw [handDown, if_neg nonempty, offered] at ok
      exact inductionHypothesis ok

theorem content_makeRoom {depth : Nat}
    {offer : Channel depth → Bytes → Except OutputError Nat × Channel depth}
    (appends : ∀ receiver data, (offer receiver data).2.content =
      receiver.content ++ data.take (takenOf (offer receiver data).1))
    (pending : Bytes) (below : Channel depth) (data : Bytes) :
    (makeRoom offer pending below data).2.2.content ++
        (makeRoom offer pending below data).2.1 =
      below.content ++ pending := by
  rw [makeRoom]
  split
  · exact content_handDown appends below pending
  · rfl

/-- A write too large for the buffer finds the buffer empty. -/
theorem makeRoom_large {depth : Nat}
    {offer : Channel depth → Bytes → Except OutputError Nat × Channel depth}
    {pending rest data : Bytes} {below after : Channel depth}
    (large : bufferCapacity ≤ data.length)
    (ok : makeRoom offer pending below data = (.ok (), rest, after)) :
    rest = [] := by
  rw [makeRoom] at ok
  split at ok
  · exact handDown_ok ok
  · rename_i fits
    simp only [Prod.mk.injEq] at ok
    rw [← ok.2.1]
    have positive : 0 < bufferCapacity := by decide
    exact List.length_eq_zero_iff.mp (by omega)

theorem write_buffer {depth : Nat} (pending : Bytes) (below : Channel depth)
    (data : Bytes) :
    write (depth + 1) (.buffer pending below) data =
      match makeRoom (write depth) pending below data with
      | (.error cause, rest, after) => (.error cause, .buffer rest after)
      | (.ok (), rest, after) =>
          if bufferCapacity ≤ data.length then
            ((write depth after data).1, .buffer rest (write depth after data).2)
          else
            (.ok data.length, .buffer (rest ++ data) after) :=
  rfl

theorem writeAll_buffer {depth : Nat} (pending : Bytes) (below : Channel depth)
    (data : Bytes) :
    writeAll (depth + 1) (.buffer pending below) data =
      match makeRoom (write depth) pending below data with
      | (.error cause, rest, after) => (.error cause, .buffer rest after)
      | (.ok (), rest, after) =>
          if bufferCapacity ≤ data.length then
            ((writeAll depth after data).1,
              .buffer rest (writeAll depth after data).2)
          else
            (.ok (), .buffer (rest ++ data) after) :=
  rfl

theorem flush_buffer {depth : Nat} (pending : Bytes) (below : Channel depth) :
    flush (depth + 1) (.buffer pending below) =
      match handDown (write depth) below pending with
      | (.error cause, rest, after) => (.error cause, .buffer rest after)
      | (.ok (), rest, after) =>
          ((flush depth after).1, .buffer rest (flush depth after).2) :=
  rfl

/-- A write appends what was taken of it, whatever its result. -/
theorem content_write (depth : Nat) (channel : Channel depth) (data : Bytes) :
    (write depth channel data).2.content = channel.content ++
      data.take (takenOf (write depth channel data).1) := by
  induction depth generalizing data with
  | zero =>
      cases channel with
      | sink target => exact Sink.write_bytes target data
  | succ depth inductionHypothesis =>
      cases channel with
      | buffer pending below =>
          have room := content_makeRoom inductionHypothesis pending below data
          rw [write_buffer]
          rcases made : makeRoom (write depth) pending below data with
            ⟨result, rest, after⟩
          rw [made] at room
          cases result with
          | error cause =>
              simp only [content_buffer, takenOf, List.take_zero,
                List.append_nil]
              exact room
          | ok _ =>
              by_cases large : bufferCapacity ≤ data.length
              · have empty := makeRoom_large large made
                subst empty
                simp only [List.append_nil] at room
                simp only [large, if_true, content_buffer, List.append_nil,
                  inductionHypothesis, room]
              · simp only [large, if_false, content_buffer, takenOf,
                  List.take_length]
                rw [← List.append_assoc]
                exact congrArg (· ++ data) room

/-- A delivery appends a first part of the data, and all of it if and only if it
succeeds. -/
theorem writeAll_appends {depth : Nat} (channel : Channel depth) (data : Bytes) :
    ∃ part, part <+: data ∧
      (writeAll depth channel data).2.content = channel.content ++ part ∧
      ((writeAll depth channel data).1 = .ok () ↔
        part.length = data.length) := by
  induction depth with
  | zero =>
      cases channel with
      | sink target => exact Sink.writeAll_appends target data
  | succ depth inductionHypothesis =>
      cases channel with
      | buffer pending below =>
          have room := content_makeRoom (content_write depth) pending below data
          rw [writeAll_buffer]
          rcases made : makeRoom (write depth) pending below data with
            ⟨result, rest, between⟩
          rw [made] at room
          cases result with
          | error cause =>
              -- Room was asked for, so there is something to write.
              have nonempty : ([] : Bytes).length ≠ data.length := by
                intro empty
                rw [makeRoom, ← empty, List.length_nil,
                  if_neg (Nat.not_lt_zero _)] at made
                cases made
              refine ⟨[], List.nil_prefix, ?_, ?_⟩
              · rw [List.append_nil]
                exact room
              · refine iff_of_false ?_ nonempty
                intro ok
                cases ok
          | ok _ =>
              by_cases large : bufferCapacity ≤ data.length
              · have empty := makeRoom_large large made
                subst empty
                simp only [List.append_nil] at room
                rcases inductionHypothesis between with
                  ⟨part, isFirst, content, whole⟩
                refine ⟨part, isFirst, ?_, ?_⟩
                · simp only [large, if_true, content_buffer, List.append_nil,
                    content, room]
                · simp only [large, if_true]
                  exact whole
              · refine ⟨data, List.prefix_rfl, ?_, ?_⟩
                · simp only [large, if_false, content_buffer]
                  rw [← List.append_assoc]
                  exact congrArg (· ++ data) room
                · simp only [large, if_false]

/-- A delivery that succeeded appends everything. -/
theorem content_writeAll {depth : Nat} {channel after : Channel depth}
    {data : Bytes} (ok : writeAll depth channel data = (.ok (), after)) :
    after.content = channel.content ++ data := by
  rcases writeAll_appends channel data with ⟨part, isFirst, content, whole⟩
  rw [ok] at content whole
  rw [content, isFirst.eq_of_length (whole.mp rfl)]

/-- A delivery that failed appends a first part and not everything. -/
theorem content_writeAll_error {depth : Nat} {channel after : Channel depth}
    {data : Bytes} {cause : OutputError}
    (error : writeAll depth channel data = (.error cause, after)) :
    ∃ part, part <+: data ∧ part.length < data.length ∧
      after.content = channel.content ++ part := by
  rcases writeAll_appends channel data with ⟨part, isFirst, content, whole⟩
  rw [error] at content whole
  refine ⟨part, isFirst, ?_, content⟩
  apply Nat.lt_of_le_of_ne isFirst.length_le
  intro same
  cases whole.mpr same

/-- A flush moves bytes down. -/
theorem content_flush (depth : Nat) (channel : Channel depth) :
    (flush depth channel).2.content = channel.content := by
  induction depth with
  | zero => rfl
  | succ depth inductionHypothesis =>
      cases channel with
      | buffer pending below =>
          have moved := content_handDown (content_write depth) below pending
          rw [flush_buffer]
          rcases handed : handDown (write depth) below pending with
            ⟨result, rest, after⟩
          rw [handed] at moved
          cases result with
          | error cause => exact moved
          | ok _ =>
              simp only [content_buffer, inductionHypothesis]
              exact moved

/-- Nothing is lost with a buffer that was flushed. -/
theorem content_drop_flush {depth : Nat} {channel after : Channel (depth + 1)}
    (ok : flush (depth + 1) channel = (.ok (), after)) :
    after.drop.content = channel.content := by
  have kept := content_flush (depth + 1) channel
  rw [ok] at kept
  rw [← kept]
  cases channel with
  | buffer pending below =>
      rw [flush_buffer] at ok
      rcases handed : handDown (write depth) below pending with
        ⟨result, rest, between⟩
      rw [handed] at ok
      cases result with
      | error cause => simp at ok
      | ok _ =>
          have empty := handDown_ok handed
          subst empty
          rw [Prod.mk.injEq] at ok
          rw [← ok.2, content_buffer, List.append_nil, drop]
          unfold handDown
          rfl

end Channel

end Templating

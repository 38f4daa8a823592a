import Templating.Proofs.Output.Limit

/-!
# Growing channels

Whatever is done to a channel, its sink only takes more: a full sink stays as
it is, and the number of bytes that a sink can hold at all never changes.  No
buffer ever holds more than its capacity.
-/

namespace Templating

namespace Sink

/-- How many bytes a sink holds once it is full. -/
def limit? (sink : Sink) : Option Nat :=
  sink.room.map (sink.bytes.length + ·)

/-- The second sink is the first after it was offered more. -/
structure Grows (before after : Sink) : Prop where
  bytes : before.bytes <+: after.bytes
  full : before.room = some 0 → after = before
  limit : after.limit? = before.limit?

theorem Grows.refl (sink : Sink) : sink.Grows sink :=
  ⟨List.prefix_rfl, fun _ => rfl, rfl⟩

theorem Grows.trans {before between after : Sink}
    (grows : before.Grows between) (more : between.Grows after) :
    before.Grows after := by
  constructor
  · exact grows.bytes.trans more.bytes
  · intro full
    have same := grows.full full
    rw [more.full (by rw [same, full]), same]
  · rw [more.limit, grows.limit]

theorem Grows.unlimited {before after : Sink} (grows : before.Grows after)
    (unlimited : before.room = none) : after.room = none := by
  have limit := grows.limit
  rw [limit?, limit?, unlimited] at limit
  simpa using limit

theorem grows_take (sink : Sink) (data : Bytes) :
    sink.Grows (sink.take data) := by
  constructor
  · rw [bytes_take]
    exact List.prefix_append _ _
  · intro full
    apply ext_bytes
    · rw [bytes_take, acceptance, full]
      simp
    · rw [room_take, full]
      simp
    · rfl
  · rw [limit?, limit?, room_take, bytes_take, acceptance]
    cases sink.room with
    | none => rfl
    | some left =>
        simp only [Option.map_some, List.length_append, List.length_take]
        congr 1
        omega

/-- A write leaves the sink that took what there was room for. -/
theorem write_snd (sink : Sink) (data : Bytes) :
    (sink.write data).2 = sink.take data := by
  rw [write]
  split
  · rename_i refused
    simp only [Bool.and_eq_true, decide_eq_true_eq] at refused
    have same : sink = sink.take data := by
      apply ext_bytes
      · rw [bytes_take, refused.1, List.take_zero, List.append_nil]
      · rw [acceptance] at refused
        rw [room_take]
        cases room : sink.room with
        | none => rfl
        | some left =>
            have nothing : left = 0 := by
              have nonempty : data.length ≠ 0 := by simpa using refused.2
              have none := refused.1
              simp only [room] at none
              omega
            simp [nothing]
      · rfl
    cases sink.whenFull with
    | refuses => exact same
    | takesNothing => exact same
  · rfl

theorem writeAll_snd (sink : Sink) (data : Bytes) :
    (sink.writeAll data).2 = sink.take data := by
  rw [writeAll_eq]

theorem write_of_fits {sink : Sink} {data : Bytes}
    (fits : sink.acceptance data = data.length) :
    (sink.write data).1 = .ok data.length := by
  rw [write, if_neg]
  · rw [fits]
  · rw [fits]
    cases data <;> simp

theorem writeAll_of_fits {sink : Sink} {data : Bytes}
    (fits : sink.acceptance data = data.length) :
    (sink.writeAll data).1 = .ok () := by
  rw [writeAll_eq, fits, if_neg (Nat.lt_irrefl _)]

theorem acceptance_unlimited {sink : Sink} (unlimited : sink.room = none)
    (data : Bytes) : sink.acceptance data = data.length := by
  rw [acceptance, unlimited]

end Sink

namespace Channel

variable {depth : Nat}

/-! ## Writes past a buffer -/

/-- A write to the innermost buffer, given how a large one goes past it. -/
def writeThrough {α : Type}
    (past : Channel depth → Except OutputError α × Channel depth) (stored : α)
    (pending : Bytes) (below : Channel depth) (data : Bytes) :
    Except OutputError α × Channel (depth + 1) :=
  match makeRoom (write depth) pending below data with
  | (.error cause, rest, after) => (.error cause, .buffer rest after)
  | (.ok (), rest, after) =>
      if bufferCapacity ≤ data.length then
        ((past after).1, .buffer rest (past after).2)
      else
        (.ok stored, .buffer (rest ++ data) after)

theorem write_eq_writeThrough (pending : Bytes) (below : Channel depth)
    (data : Bytes) :
    write (depth + 1) (.buffer pending below) data =
      writeThrough (fun after => write depth after data) data.length pending
        below data :=
  write_buffer pending below data

theorem writeAll_eq_writeThrough (pending : Bytes) (below : Channel depth)
    (data : Bytes) :
    writeAll (depth + 1) (.buffer pending below) data =
      writeThrough (fun after => writeAll depth after data) () pending
        below data :=
  writeAll_buffer pending below data

/-! ## Growth -/

@[simp]
theorem bottom_sink (target : Sink) : (Channel.sink target).bottom = target :=
  rfl

@[simp]
theorem bottom_buffer (pending : Bytes) (below : Channel depth) :
    (Channel.buffer pending below).bottom = below.bottom := rfl

@[simp]
theorem bottom_onTop (channel : Channel depth) :
    channel.onTop.bottom = channel.bottom := rfl

section HandDown

variable {offer : Channel depth → Bytes → Except OutputError Nat × Channel depth}

/-- Once something was offered, handing down only offers more. -/
theorem grows_handDown_offer
    (grows : ∀ (receiver : Channel depth) (data : Bytes),
      receiver.bottom.Grows (offer receiver data).2.bottom)
    (receiver : Channel depth) (pending : Bytes)
    (nonempty : ¬pending.isEmpty = true) :
    (offer receiver pending).2.bottom.Grows
      (handDown offer receiver pending).2.2.bottom := by
  induction receiver, pending using handDown.induct offer with
  | case1 receiver pending empty => exact absurd empty nonempty
  | case2 receiver pending _ cause after offered =>
      rw [handDown, if_neg nonempty, offered]
      exact .refl _
  | case3 receiver pending _ after offered =>
      rw [handDown, if_neg nonempty, offered]
      exact .refl _
  | case4 receiver pending _ taken after offered inductionHypothesis =>
      rw [handDown, if_neg nonempty, offered]
      by_cases empty : (pending.drop (taken + 1)).isEmpty = true
      · simp only
        rw [handDown, if_pos empty]
        exact .refl _
      · exact (grows _ _).trans (inductionHypothesis empty)

theorem grows_handDown
    (grows : ∀ (receiver : Channel depth) (data : Bytes),
      receiver.bottom.Grows (offer receiver data).2.bottom)
    (receiver : Channel depth) (pending : Bytes) :
    receiver.bottom.Grows
      (handDown offer receiver pending).2.2.bottom := by
  by_cases empty : pending.isEmpty = true
  · rw [handDown, if_pos empty]
    exact .refl _
  · exact (grows _ _).trans
      (grows_handDown_offer grows receiver pending empty)

theorem grows_makeRoom
    (grows : ∀ (receiver : Channel depth) (data : Bytes),
      receiver.bottom.Grows (offer receiver data).2.bottom)
    (pending : Bytes) (below : Channel depth) (data : Bytes) :
    below.bottom.Grows (makeRoom offer pending below data).2.2.bottom := by
  rw [makeRoom]
  split
  · exact grows_handDown grows below pending
  · exact .refl _

end HandDown

theorem grows_writeThrough_makeRoom {α : Type}
    {past : Channel depth → Except OutputError α × Channel depth}
    (grows : ∀ channel : Channel depth,
      channel.bottom.Grows (past channel).2.bottom)
    (stored : α) (pending : Bytes) (below : Channel depth) (data : Bytes) :
    (makeRoom (write depth) pending below data).2.2.bottom.Grows
      (writeThrough past stored pending below data).2.bottom := by
  rw [writeThrough]
  rcases makeRoom (write depth) pending below data with ⟨result, rest, after⟩
  cases result with
  | error cause => exact .refl _
  | ok _ =>
      simp only
      split
      · exact grows after
      · exact .refl _

theorem grows_write (channel : Channel depth) (data : Bytes) :
    channel.bottom.Grows (write depth channel data).2.bottom := by
  induction depth generalizing data with
  | zero =>
      cases channel with
      | sink target =>
          show target.Grows (target.write data).2
          rw [Sink.write_snd]
          exact target.grows_take data
  | succ depth inductionHypothesis =>
      cases channel with
      | buffer pending below =>
          rw [write_eq_writeThrough]
          exact (grows_makeRoom inductionHypothesis pending below data).trans
            (grows_writeThrough_makeRoom
              (fun after => inductionHypothesis after data) _ _ _ _)

theorem grows_writeAll (channel : Channel depth) (data : Bytes) :
    channel.bottom.Grows (writeAll depth channel data).2.bottom := by
  induction depth with
  | zero =>
      cases channel with
      | sink target =>
          show target.Grows (target.writeAll data).2
          rw [Sink.writeAll_snd]
          exact target.grows_take data
  | succ depth inductionHypothesis =>
      cases channel with
      | buffer pending below =>
          rw [writeAll_eq_writeThrough]
          exact (grows_makeRoom grows_write pending below data).trans
            (grows_writeThrough_makeRoom inductionHypothesis _ _ _ _)

theorem grows_flush_handDown
    (grows : ∀ channel : Channel depth,
      channel.bottom.Grows (flush depth channel).2.bottom)
    (pending : Bytes) (below : Channel depth) :
    (handDown (write depth) below pending).2.2.bottom.Grows
      (flush (depth + 1) (.buffer pending below)).2.bottom := by
  rw [flush_buffer]
  rcases handDown (write depth) below pending with ⟨result, rest, after⟩
  cases result with
  | error cause => exact .refl _
  | ok _ => exact grows after

theorem grows_flush (channel : Channel depth) :
    channel.bottom.Grows (flush depth channel).2.bottom := by
  induction depth with
  | zero => exact .refl _
  | succ depth inductionHypothesis =>
      cases channel with
      | buffer pending below =>
          exact (grows_handDown grows_write below pending).trans
            (grows_flush_handDown inductionHypothesis pending below)

theorem grows_drop (channel : Channel (depth + 1)) :
    channel.bottom.Grows channel.drop.bottom := by
  cases channel with
  | buffer pending below => exact grows_handDown grows_write below pending

/-! ## Unlimited sinks -/

section HandDown

variable {offer : Channel depth → Bytes → Except OutputError Nat × Channel depth}

theorem handDown_of_unlimited
    (takes : ∀ {receiver : Channel depth} (data : Bytes),
      receiver.bottom.room = none →
        (offer receiver data).1 = .ok data.length)
    {receiver : Channel depth} (pending : Bytes)
    (unlimited : receiver.bottom.room = none) :
    (handDown offer receiver pending).1 = .ok () := by
  by_cases empty : pending.isEmpty = true
  · rw [handDown, if_pos empty]
  · have all := takes pending unlimited
    rw [handDown, if_neg empty]
    revert all
    rcases offer receiver pending with ⟨result, after⟩
    rintro ⟨⟩
    cases pending with
    | nil => exact absurd rfl empty
    | cons byte rest =>
        simp only [List.length_cons, List.drop_succ_cons, List.drop_length]
        rw [handDown]
        rfl

theorem makeRoom_of_unlimited
    (takes : ∀ {receiver : Channel depth} (data : Bytes),
      receiver.bottom.room = none →
        (offer receiver data).1 = .ok data.length)
    {below : Channel depth} (pending data : Bytes)
    (unlimited : below.bottom.room = none) :
    (makeRoom offer pending below data).1 = .ok () := by
  rw [makeRoom]
  split
  · exact handDown_of_unlimited takes pending unlimited
  · rfl

end HandDown

theorem writeThrough_of_unlimited {α : Type}
    {past : Channel depth → Except OutputError α × Channel depth} {stored : α}
    (takes : ∀ {receiver : Channel depth} (data : Bytes),
      receiver.bottom.room = none →
        (write depth receiver data).1 = .ok data.length)
    (takesPast : ∀ {channel : Channel depth}, channel.bottom.room = none →
      (past channel).1 = .ok stored)
    {below : Channel depth} (pending data : Bytes)
    (unlimited : below.bottom.room = none) :
    (writeThrough past stored pending below data).1 = .ok stored := by
  have made := makeRoom_of_unlimited takes pending data unlimited
  have still :=
    (grows_makeRoom grows_write pending below data).unlimited unlimited
  rw [writeThrough]
  revert made still
  rcases makeRoom (write depth) pending below data with ⟨result, rest, after⟩
  rintro ⟨⟩ still
  simp only
  split
  · exact takesPast still
  · rfl

theorem write_of_unlimited {channel : Channel depth} (data : Bytes)
    (unlimited : channel.bottom.room = none) :
    (write depth channel data).1 = .ok data.length := by
  induction depth generalizing data with
  | zero =>
      cases channel with
      | sink target =>
          exact Sink.write_of_fits (Sink.acceptance_unlimited unlimited data)
  | succ depth inductionHypothesis =>
      cases channel with
      | buffer pending below =>
          rw [write_eq_writeThrough]
          exact writeThrough_of_unlimited inductionHypothesis
            (inductionHypothesis data) pending data unlimited

theorem writeAll_of_unlimited {channel : Channel depth} (data : Bytes)
    (unlimited : channel.bottom.room = none) :
    (writeAll depth channel data).1 = .ok () := by
  induction depth with
  | zero =>
      cases channel with
      | sink target =>
          exact Sink.writeAll_of_fits
            (Sink.acceptance_unlimited unlimited data)
  | succ depth inductionHypothesis =>
      cases channel with
      | buffer pending below =>
          rw [writeAll_eq_writeThrough]
          exact writeThrough_of_unlimited write_of_unlimited
            inductionHypothesis pending data unlimited

theorem flush_of_unlimited {channel : Channel depth}
    (unlimited : channel.bottom.room = none) :
    (flush depth channel).1 = .ok () := by
  induction depth with
  | zero => rfl
  | succ depth inductionHypothesis =>
      cases channel with
      | buffer pending below =>
          have unlimitedBelow : below.bottom.room = none := unlimited
          have handed :=
            handDown_of_unlimited write_of_unlimited pending unlimitedBelow
          have still :=
            (grows_handDown grows_write below pending).unlimited unlimitedBelow
          rw [flush_buffer]
          revert handed still
          rcases handDown (write depth) below pending with
            ⟨result, rest, after⟩
          rintro ⟨⟩ still
          exact inductionHypothesis still

/-! ## Capacity -/

/-- The buffers of a channel, the outermost first. -/
def buffers : {depth : Nat} → Channel depth → List Bytes
  | _, .sink _ => []
  | _, .buffer pending below => below.buffers ++ [pending]

theorem flatten_buffers (channel : Channel depth) :
    channel.buffers.flatten = channel.held := by
  induction channel with
  | sink target => rfl
  | buffer pending below inductionHypothesis =>
      rw [buffers, held, List.flatten_append, inductionHypothesis]
      simp

/-- No buffer holds more than its capacity. -/
def Fits (channel : Channel depth) : Prop :=
  ∀ pending ∈ channel.buffers, pending.length ≤ bufferCapacity

theorem fits_sink (target : Sink) : (Channel.sink target).Fits := by
  intro pending member
  cases member

theorem fits_buffer {pending : Bytes} {below : Channel depth} :
    (Channel.buffer pending below).Fits ↔
      below.Fits ∧ pending.length ≤ bufferCapacity := by
  simp only [Fits, buffers, List.mem_append, List.mem_singleton, or_imp,
    forall_and, forall_eq]

theorem Fits.onTop {channel : Channel depth} (fits : channel.Fits) :
    channel.onTop.Fits :=
  fits_buffer.mpr ⟨fits, Nat.zero_le _⟩

section HandDown

variable {offer : Channel depth → Bytes → Except OutputError Nat × Channel depth}

theorem fits_handDown
    (keeps : ∀ receiver data, receiver.Fits → (offer receiver data).2.Fits)
    {receiver : Channel depth} (pending : Bytes) (fits : receiver.Fits) :
    (handDown offer receiver pending).2.2.Fits ∧
      (handDown offer receiver pending).2.1.length ≤ pending.length := by
  induction receiver, pending using handDown.induct offer with
  | case1 receiver pending empty =>
      rw [handDown, if_pos empty]
      exact ⟨fits, Nat.zero_le _⟩
  | case2 receiver pending nonempty cause after offered =>
      have kept := keeps receiver pending fits
      rw [offered] at kept
      rw [handDown, if_neg nonempty, offered]
      exact ⟨kept, Nat.le_refl _⟩
  | case3 receiver pending nonempty after offered =>
      have kept := keeps receiver pending fits
      rw [offered] at kept
      rw [handDown, if_neg nonempty, offered]
      exact ⟨kept, Nat.le_refl _⟩
  | case4 receiver pending nonempty taken after offered inductionHypothesis =>
      have kept := keeps receiver pending fits
      rw [offered] at kept
      rw [handDown, if_neg nonempty, offered]
      have later := inductionHypothesis kept
      rw [List.length_drop] at later
      exact ⟨later.1, Nat.le_trans later.2 (Nat.sub_le _ _)⟩

theorem fits_makeRoom
    (keeps : ∀ receiver data, receiver.Fits → (offer receiver data).2.Fits)
    {pending : Bytes} {below : Channel depth} (data : Bytes)
    (fits : (Channel.buffer pending below).Fits) :
    (makeRoom offer pending below data).2.2.Fits ∧
      (makeRoom offer pending below data).2.1.length ≤ bufferCapacity := by
  rcases fits_buffer.mp fits with ⟨fitsBelow, fitsPending⟩
  rw [makeRoom]
  split
  · rcases fits_handDown keeps pending fitsBelow with ⟨kept, shorter⟩
    exact ⟨kept, Nat.le_trans shorter fitsPending⟩
  · exact ⟨fitsBelow, fitsPending⟩

end HandDown

/-- A small write fits behind what is left once there is room for it. -/
theorem length_makeRoom
    {offer : Channel depth → Bytes → Except OutputError Nat × Channel depth}
    {pending rest data : Bytes} {below after : Channel depth}
    (small : data.length < bufferCapacity)
    (fits : pending.length ≤ bufferCapacity)
    (ok : makeRoom offer pending below data = (.ok (), rest, after)) :
    (rest ++ data).length ≤ bufferCapacity := by
  rw [makeRoom] at ok
  split at ok
  · rw [handDown_ok ok]
    exact Nat.le_of_lt small
  · rename_i enough
    simp only [Prod.mk.injEq] at ok
    rw [← ok.2.1, List.length_append]
    omega

theorem fits_writeThrough {α : Type}
    {past : Channel depth → Except OutputError α × Channel depth}
    (keeps : ∀ receiver data, receiver.Fits → (write depth receiver data).2.Fits)
    (keepsPast : ∀ channel, channel.Fits → (past channel).2.Fits)
    (stored : α) {pending : Bytes} {below : Channel depth} (data : Bytes)
    (fits : (Channel.buffer pending below).Fits) :
    (writeThrough past stored pending below data).2.Fits := by
  have room := fits_makeRoom keeps data fits
  rw [writeThrough]
  rcases made : makeRoom (write depth) pending below data with
    ⟨result, rest, after⟩
  rw [made] at room
  cases result with
  | error cause => exact fits_buffer.mpr room
  | ok _ =>
      simp only
      split
      · exact fits_buffer.mpr ⟨keepsPast after room.1, room.2⟩
      · rename_i small
        exact fits_buffer.mpr ⟨room.1, length_makeRoom (Nat.not_le.mp small)
          (fits_buffer.mp fits).2 made⟩

theorem Fits.write {channel : Channel depth} (fits : channel.Fits)
    (data : Bytes) : (write depth channel data).2.Fits := by
  induction depth generalizing data with
  | zero =>
      cases channel with
      | sink target => exact fits_sink _
  | succ depth inductionHypothesis =>
      cases channel with
      | buffer pending below =>
          have keeps (receiver : Channel depth) (data : Bytes)
              (fits : receiver.Fits) := inductionHypothesis fits data
          rw [write_eq_writeThrough]
          exact fits_writeThrough keeps (fun after => keeps after data) _ data
            fits

theorem Fits.writeAll {channel : Channel depth} (fits : channel.Fits)
    (data : Bytes) : (writeAll depth channel data).2.Fits := by
  induction depth with
  | zero =>
      cases channel with
      | sink target => exact fits_sink _
  | succ depth inductionHypothesis =>
      cases channel with
      | buffer pending below =>
          rw [writeAll_eq_writeThrough]
          exact fits_writeThrough (fun _ data fits => fits.write data)
            (fun _ fits => inductionHypothesis fits) _ data fits

theorem Fits.flush {channel : Channel depth} (fits : channel.Fits) :
    (flush depth channel).2.Fits := by
  induction depth with
  | zero => exact fits
  | succ depth inductionHypothesis =>
      cases channel with
      | buffer pending below =>
          rcases fits_buffer.mp fits with ⟨fitsBelow, fitsPending⟩
          have kept := fits_handDown (fun _ data fits => fits.write data)
            pending fitsBelow
          rw [flush_buffer]
          rcases handed : handDown (Channel.write depth) below pending with
            ⟨result, rest, after⟩
          rw [handed] at kept
          have short := Nat.le_trans kept.2 fitsPending
          cases result with
          | error cause => exact fits_buffer.mpr ⟨kept.1, short⟩
          | ok _ => exact fits_buffer.mpr ⟨inductionHypothesis kept.1, short⟩

theorem Fits.drop {channel : Channel (depth + 1)} (fits : channel.Fits) :
    channel.drop.Fits := by
  cases channel with
  | buffer pending below =>
      exact (fits_handDown (fun _ data fits => fits.write data) pending
        (fits_buffer.mp fits).1).1

end Channel

end Templating

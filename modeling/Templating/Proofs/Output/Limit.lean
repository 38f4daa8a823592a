import Templating.Proofs.Output.Content

/-!
# Limited sinks

A sink with limited room takes the first bytes of what is delivered to it, as
many as there is room for, and how the bytes are cut into deliveries makes no
difference.  A delivery fails exactly if it does not fit.
-/

namespace Templating

/-- How a delivery fails that a full sink cuts off. -/
def WhenFull.failure : WhenFull → OutputError
  | .refuses => .closed
  | .takesNothing => .incomplete

namespace Sink

theorem writeAll_eq (sink : Sink) (data : Bytes) :
    sink.writeAll data =
      (if sink.acceptance data < data.length then
        .error sink.whenFull.failure
      else .ok (), sink.take data) := by
  rw [writeAll]
  split
  · cases sink.whenFull <;> rfl
  · rfl

@[simp]
theorem take_nil (sink : Sink) : sink.take [] = sink := by
  cases sink with
  | mk taken room whenFull => cases room <;> simp [take]

theorem writeAll_nil (sink : Sink) : sink.writeAll [] = (.ok (), sink) := by
  rw [writeAll_eq, take_nil]
  rfl

@[simp]
theorem whenFull_take (sink : Sink) (data : Bytes) :
    (sink.take data).whenFull = sink.whenFull := rfl

/-- Two sinks are equal if they took the same and will do the same. -/
theorem ext_bytes {first second : Sink} (bytes : first.bytes = second.bytes)
    (room : first.room = second.room)
    (whenFull : first.whenFull = second.whenFull) : first = second := by
  cases first
  cases second
  simp only [Sink.bytes, Array.toList_inj] at bytes
  simp only at room whenFull
  rw [bytes, room, whenFull]

theorem room_take (sink : Sink) (data : Bytes) :
    (sink.take data).room = sink.room.map (· - data.length) := rfl

/-- A delivery that fits leaves room for what follows. -/
theorem acceptance_append {sink : Sink} {first : Bytes}
    (fits : sink.acceptance first = first.length) (second : Bytes) :
    sink.acceptance (first ++ second) =
      first.length + (sink.take first).acceptance second := by
  rw [acceptance] at fits
  rw [acceptance, acceptance, room_take]
  cases room : sink.room with
  | none => simp
  | some left =>
      simp only [room] at fits
      simp only [Option.map_some, List.length_append]
      omega

theorem take_append {sink : Sink} {first : Bytes}
    (fits : sink.acceptance first = first.length) (second : Bytes) :
    sink.take (first ++ second) = (sink.take first).take second := by
  apply ext_bytes
  · rw [bytes_take, bytes_take, bytes_take, fits, List.take_length,
      List.append_assoc, acceptance_append fits,
      List.take_length_add_append]
  · rw [room_take, room_take, room_take, Option.map_map]
    congr 1
    funext left
    simp only [Function.comp_apply, List.length_append]
    omega
  · rfl

/-- What follows a delivery that does not fit is not taken. -/
theorem take_append_of_lt {sink : Sink} {first : Bytes}
    (short : sink.acceptance first < first.length) (second : Bytes) :
    sink.acceptance (first ++ second) < (first ++ second).length ∧
      sink.take (first ++ second) = sink.take first := by
  rw [acceptance] at short
  cases room : sink.room with
  | none =>
      simp only [room] at short
      exact absurd short (Nat.lt_irrefl _)
  | some left =>
      simp only [room] at short
      have inside : left < first.length := by omega
      have whole : sink.acceptance (first ++ second) = left := by
        rw [acceptance, room]
        simp only [List.length_append]
        omega
      have part : sink.acceptance first = left := by
        rw [acceptance, room]
        simp only
        omega
      constructor
      · rw [whole, List.length_append]
        omega
      · apply ext_bytes
        · rw [bytes_take, bytes_take, whole, part,
            List.take_append_of_le_length (Nat.le_of_lt inside)]
        · rw [room_take, room_take, room]
          simp only [Option.map_some, List.length_append, Option.some.injEq]
          omega
        · rfl

/-- Two deliveries in a row are one delivery of both; after a failure there is
no second. -/
theorem writeAll_append (sink : Sink) (first second : Bytes) :
    sink.writeAll (first ++ second) =
      match sink.writeAll first with
      | (.ok (), between) => between.writeAll second
      | (.error cause, between) => (.error cause, between) := by
  by_cases short : sink.acceptance first < first.length
  · have cutOff := take_append_of_lt short second
    rw [writeAll_eq, writeAll_eq, if_pos short, if_pos cutOff.1, cutOff.2]
  · have fits : sink.acceptance first = first.length :=
      Nat.le_antisymm (acceptance_le_length sink first) (Nat.not_lt.mp short)
    have same : sink.acceptance (first ++ second) < (first ++ second).length ↔
        (sink.take first).acceptance second < second.length := by
      rw [acceptance_append fits, List.length_append]
      omega
    rw [writeAll_eq, writeAll_eq sink first, if_neg short]
    show _ = (sink.take first).writeAll second
    rw [writeAll_eq, take_append fits, whenFull_take]
    simp only [same]

/-- An unlimited sink takes every delivery. -/
theorem writeAll_unlimited (data : Bytes) :
    (unlimited.writeAll data).1 = .ok () ∧
      (unlimited.writeAll data).2.bytes = data := by
  have all : unlimited.acceptance data = data.length := rfl
  rw [writeAll_eq, bytes_take, all, if_neg (Nat.lt_irrefl _)]
  simp [unlimited, bytes]

/-- A limited sink takes the first bytes, and the delivery fails if there are
more. -/
theorem writeAll_limited (room : Nat) (whenFull : WhenFull) (data : Bytes) :
    ((limited room whenFull).writeAll data).1 =
        (if room < data.length then .error whenFull.failure else .ok ()) ∧
      ((limited room whenFull).writeAll data).2.bytes = data.take room := by
  have accepted : (limited room whenFull).acceptance data =
      min room data.length := rfl
  rw [writeAll_eq, bytes_take, accepted]
  constructor
  · have same : min room data.length < data.length ↔ room < data.length := by
      omega
    simp only [same]
    rfl
  · rw [← List.take_eq_take_min]
    simp [limited, bytes]

/-- A full sink is the same whatever else it is asked to take. -/
theorem take_limited_append_of_lt {room : Nat} {first : Bytes}
    (short : room < first.length) (whenFull : WhenFull) (second : Bytes) :
    (limited room whenFull).take (first ++ second) =
      (limited room whenFull).take first := by
  have cutOff : (limited room whenFull).acceptance first < first.length := by
    show min room first.length < first.length
    omega
  exact (take_append_of_lt cutOff second).2

/-- A delivery to a limited sink that was asked for something before. -/
theorem writeAll_take_limited (room : Nat) (whenFull : WhenFull)
    (first second : Bytes) :
    ((limited room whenFull).take first).writeAll second =
      (if (first ++ second).length ≤ room ∨ second = [] then .ok ()
        else .error whenFull.failure,
        (limited room whenFull).take (first ++ second)) := by
  have acceptance : ((limited room whenFull).take first).acceptance second =
      min (room - first.length) second.length := rfl
  rw [writeAll_eq, acceptance, List.length_append]
  congr 1
  · have isEmpty : second = [] ↔ second.length = 0 :=
      List.length_eq_zero_iff.symm
    have cutOff : min (room - first.length) second.length < second.length ↔
        ¬(first.length + second.length ≤ room ∨ second = []) := by
      rw [isEmpty]
      omega
    simp only [cutOff, ite_not]
    rfl
  · by_cases fits : first.length ≤ room
    · have taken : (limited room whenFull).acceptance first = first.length :=
        Nat.min_eq_right fits
      exact (take_append taken second).symm
    · rw [take_limited_append_of_lt (Nat.lt_of_not_le fits)]
      -- The sink is full, so `second` adds nothing.
      have full : room - first.length = 0 := by omega
      apply ext_bytes
      · rw [bytes_take, acceptance, full, Nat.zero_min, List.take_zero,
          List.append_nil]
      · show some (room - first.length - second.length) =
          some (room - first.length)
        rw [full, Nat.zero_sub]
      · rfl

end Sink

end Templating

import Templating.Output.Sink

/-!
# Buffered channels

A channel is a sink below a number of buffers.  A buffer collects small writes
and hands them down together once they do not fit any more; a write as large as
a buffer goes past it.  Bytes that could not be handed down stay buffered.
-/

namespace Templating

/-- The bytes that a buffer holds at most. -/
def bufferCapacity : Nat := 8192

/-- A sink below `depth` buffers, the innermost first. -/
inductive Channel : (depth : Nat) → Type where
  | sink (target : Sink) : Channel 0
  | buffer {depth : Nat} (pending : Bytes) (below : Channel depth) :
      Channel (depth + 1)

/-- Offers bytes until all are taken.  Gives the bytes left over and the state
of the receiver; a receiver that takes nothing of a non-empty offer is an
error. -/
def handDown {σ : Type} (offer : σ → Bytes → Except OutputError Nat × σ)
    (receiver : σ) (pending : Bytes) : Except OutputError Unit × Bytes × σ :=
  if pending.isEmpty then
    (.ok (), [], receiver)
  else
    match offer receiver pending with
    | (.error cause, receiver) => (.error cause, pending, receiver)
    | (.ok 0, receiver) => (.error .unflushed, pending, receiver)
    | (.ok (taken + 1), receiver) =>
        handDown offer receiver (pending.drop (taken + 1))
termination_by pending.length
decreasing_by
  have nonempty : 0 < pending.length := by
    simp_all [List.length_pos_iff]
  simp only [List.length_drop]
  omega

namespace Channel

/-- A new buffer on top of a channel. -/
def onTop {depth : Nat} (below : Channel depth) : Channel (depth + 1) :=
  .buffer [] below

/-- The sink at the bottom. -/
def bottom : {depth : Nat} → Channel depth → Sink
  | _, .sink target => target
  | _, .buffer _ below => below.bottom

/-- The buffered bytes, from the outermost buffer to the innermost. -/
def held : {depth : Nat} → Channel depth → Bytes
  | _, .sink _ => []
  | _, .buffer pending below => below.held ++ pending

/-- The bytes in the innermost buffer. -/
def buffered : {depth : Nat} → Channel (depth + 1) → Nat
  | _, .buffer pending _ => pending.length

/-- Hands the innermost buffer down when a write does not fit behind it. -/
def makeRoom {depth : Nat}
    (offer : Channel depth → Bytes → Except OutputError Nat × Channel depth)
    (pending : Bytes) (below : Channel depth) (data : Bytes) :
    Except OutputError Unit × Bytes × Channel depth :=
  if bufferCapacity - pending.length < data.length then
    handDown offer below pending
  else
    (.ok (), pending, below)

/-- One write: the number of bytes taken. -/
def write : (depth : Nat) → Channel depth → Bytes →
    Except OutputError Nat × Channel depth
  | 0, .sink target, data =>
      let (result, target) := target.write data
      (result, .sink target)
  | depth + 1, .buffer pending below, data =>
      match makeRoom (write depth) pending below data with
      | (.error cause, pending, below) => (.error cause, .buffer pending below)
      | (.ok (), pending, below) =>
          if bufferCapacity ≤ data.length then
            let (result, below) := write depth below data
            (result, .buffer pending below)
          else
            (.ok data.length, .buffer (pending ++ data) below)

/-- Delivers everything, down to the sink or into buffers. -/
def writeAll : (depth : Nat) → Channel depth → Bytes →
    Except OutputError Unit × Channel depth
  | 0, .sink target, data =>
      let (result, target) := target.writeAll data
      (result, .sink target)
  | depth + 1, .buffer pending below, data =>
      match makeRoom (write depth) pending below data with
      | (.error cause, pending, below) => (.error cause, .buffer pending below)
      | (.ok (), pending, below) =>
          if bufferCapacity ≤ data.length then
            let (result, below) := writeAll depth below data
            (result, .buffer pending below)
          else
            (.ok (), .buffer (pending ++ data) below)

/-- Hands every buffer down, the innermost first. -/
def flush : (depth : Nat) → Channel depth → Except OutputError Unit × Channel depth
  | 0, channel => (.ok (), channel)
  | depth + 1, .buffer pending below =>
      match handDown (write depth) below pending with
      | (.error cause, pending, below) => (.error cause, .buffer pending below)
      | (.ok (), pending, below) =>
          let (result, below) := flush depth below
          (result, .buffer pending below)

/-- Takes the innermost buffer away.  What it holds is handed down as far as
possible and the rest is lost. -/
def drop {depth : Nat} : Channel (depth + 1) → Channel depth
  | .buffer pending below => (handDown (write depth) below pending).2.2

end Channel

end Templating

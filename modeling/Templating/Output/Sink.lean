import Templating.Text.Bytes

/-!
# Sinks

A sink takes bytes in order, either all of them or a limited number.  A full
sink refuses a write, or takes none of it without complaint; a writer that has
to deliver everything then reports that itself.
-/

namespace Templating

/-- Why output could not be delivered. -/
inductive OutputError where
  /-- The sink refused the write. -/
  | closed
  /-- The sink took none of a write that had to be delivered whole. -/
  | incomplete
  /-- The sink took none of the bytes that a buffer held back. -/
  | unflushed
  /-- The producer of the output gave up. -/
  | failed (message : String)
  deriving DecidableEq, Repr

/-- The text of an error. -/
def OutputError.message : OutputError → String
  | .closed => "closed"
  | .incomplete => "failed to write whole buffer"
  | .unflushed => "failed to write the buffered data"
  | .failed message => message

/-- What a full sink does with a write. -/
inductive WhenFull where
  | refuses
  | takesNothing
  deriving DecidableEq, Repr

/-- A place that output goes to. -/
structure Sink where
  /-- What was taken so far. -/
  taken : Array UInt8
  /-- How many bytes may follow; unlimited if there is no number. -/
  room : Option Nat
  whenFull : WhenFull
  deriving DecidableEq, Repr

namespace Sink

/-- A sink that takes everything. -/
def unlimited : Sink := ⟨#[], none, .refuses⟩

/-- A sink that takes a number of bytes. -/
def limited (room : Nat) (whenFull : WhenFull) : Sink := ⟨#[], some room, whenFull⟩

instance : Inhabited Sink := ⟨unlimited⟩

/-- What was taken so far, as a list. -/
def bytes (sink : Sink) : Bytes :=
  sink.taken.toList

/-- How many of some bytes the sink would take. -/
def acceptance (sink : Sink) (data : Bytes) : Nat :=
  match sink.room with
  | none => data.length
  | some room => min room data.length

/-- Takes what there is room for. -/
def take (sink : Sink) (data : Bytes) : Sink :=
  { sink with
    taken := sink.taken ++ data.take (sink.acceptance data)
    room := sink.room.map (· - data.length) }

/-- One write: the number of bytes taken, or a refusal.  A write of nothing
always succeeds. -/
def write (sink : Sink) (data : Bytes) : Except OutputError Nat × Sink :=
  if sink.acceptance data = 0 && !data.isEmpty then
    match sink.whenFull with
    | .refuses => (.error .closed, sink)
    | .takesNothing => (.ok 0, sink)
  else
    (.ok (sink.acceptance data), sink.take data)

/-- Delivers everything, or as much as there is room for and then an error. -/
def writeAll (sink : Sink) (data : Bytes) : Except OutputError Unit × Sink :=
  if sink.acceptance data < data.length then
    match sink.whenFull with
    | .refuses => (.error .closed, sink.take data)
    | .takesNothing => (.error .incomplete, sink.take data)
  else
    (.ok (), sink.take data)

end Sink

end Templating

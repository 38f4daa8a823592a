import Templating.Output.Sink
import Templating.Position

/-!
# Tracked output

A writer that knows its cursor: every text that is written whole has the span
it occupies in the output.  A text that is not written whole leaves the cursor
where it was.
-/

namespace Templating

/-- One step of indentation. -/
def indentUnit : String := "    "

/-- A sink and the cursor in what was written to it. -/
structure Tracker where
  sink : Sink
  position : Position
  deriving DecidableEq, Repr

namespace Tracker

/-- A tracker at the start of its output. -/
def start (sink : Sink) : Tracker := ⟨sink, .origin⟩

/-- Writes a text and gives the span it occupies. -/
def write (tracker : Tracker) (text : String) :
    Except OutputError Span × Tracker :=
  match tracker.sink.writeAll (Text.bytes text) with
  | (.ok (), sink) =>
      let span := Span.ofText tracker.position text
      (.ok span, ⟨sink, span.stop⟩)
  | (.error cause, sink) => (.error cause, ⟨sink, tracker.position⟩)

/-- Writes steps of indentation, then a text, and gives the span of the
text. -/
def writeIndented : (level : Nat) → Tracker → (text : String) →
    Except OutputError Span × Tracker
  | 0, tracker, text => tracker.write text
  | level + 1, tracker, text =>
      match tracker.write indentUnit with
      | (.ok _, tracker) => writeIndented level tracker text
      | (.error cause, tracker) => (.error cause, tracker)

end Tracker

end Templating

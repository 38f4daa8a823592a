/-!
# Positions and spans

A cursor in a text counts three things: bytes from the start, lines from zero,
and scalar values since the last newline.  Each counter has 32 bits and stays
at its largest value instead of wrapping, so a cursor can be carried over a
text of any length.  A span is a pair of cursors.
-/

namespace Templating

/-- Adds to a 32-bit counter, stopping at its largest value. -/
def saturatingAdd (counter : UInt32) (amount : Nat) : UInt32 :=
  UInt32.ofNat (min (counter.toNat + amount) (UInt32.size - 1))

/-- A cursor in a text. -/
structure Position where
  /-- Bytes from the start of the text. -/
  index : UInt32
  /-- Newlines passed. -/
  line : UInt32
  /-- Scalar values since the last newline. -/
  column : UInt32
  deriving DecidableEq, Repr

namespace Position

/-- The cursor before the first character. -/
def origin : Position := ⟨0, 0, 0⟩

instance : Inhabited Position := ⟨origin⟩

/-- The line and the column after one more character. -/
def pass (position : Position) (character : Char) : Position :=
  if character = '\n' then
    { position with line := saturatingAdd position.line 1, column := 0 }
  else
    { position with column := saturatingAdd position.column 1 }

/-- The cursor after a text.  Line and column move with every character; the
bytes are added at once. -/
def advance (position : Position) (text : String) : Position :=
  { text.toList.foldl pass position with
    index := saturatingAdd position.index text.utf8ByteSize }

end Position

/-- The stretch of a text between two cursors. -/
structure Span where
  start : Position
  stop : Position
  deriving DecidableEq, Repr

namespace Span

instance : Inhabited Span := ⟨⟨.origin, .origin⟩⟩

/-- Both ends belong to a span: a cursor right behind its last character still
lies in it. -/
def contains (span : Span) (position : Position) : Bool :=
  span.start.index ≤ position.index && position.index ≤ span.stop.index

/-- The bytes covered. -/
def size (span : Span) : UInt32 :=
  span.stop.index - span.start.index

def isEmpty (span : Span) : Bool :=
  span.size = 0

/-- The span that a text occupies when it is written at a cursor. -/
def ofText (start : Position) (text : String) : Span :=
  ⟨start, start.advance text⟩

end Span

end Templating

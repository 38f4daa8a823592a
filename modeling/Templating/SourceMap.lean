import Templating.Position

/-!
# Source maps

A mapping pairs the span of an expression in a template with the span of its
copy in the generated text.  The copy is verbatim, so a position inside one is
found in the other by moving it along with the start of the span.

Lookups by template position take the first mapping that contains it.  Lookups
by generated position use that generated spans are recorded in order: a binary
search finds the first span that does not end before the position.
-/

namespace Templating

/-- An expression of the template and where its copy landed. -/
structure Mapping where
  source : Span
  generated : Span
  deriving DecidableEq, Repr

instance : Inhabited Mapping := ⟨⟨default, default⟩⟩

/-- Moves a position from a snippet that starts at `origin` to a copy that
starts at `target`.  Columns move only on the first line: later lines of a
verbatim copy start at column zero in both places. -/
def Position.relocate (position origin target : Position) : Position :=
  let index := target.index + (position.index - origin.index)
  if position.line = origin.line then
    ⟨index, target.line, target.column + (position.column - origin.column)⟩
  else
    ⟨index, target.line + (position.line - origin.line), position.column⟩

/-- The first index in `[low, high)` that fails the test, or `high`, for a test
that holds up to some index and fails from there on. -/
def partitionPoint (test : Nat → Bool) (low high : Nat) : Nat :=
  if low < high then
    let middle := (low + high) / 2
    if test middle then
      partitionPoint test (middle + 1) high
    else
      partitionPoint test low middle
  else
    low
termination_by high - low

/-- Mappings in the order of the generated text. -/
structure SourceMap where
  mappings : Array Mapping
  deriving DecidableEq, Repr

namespace SourceMap

def empty : SourceMap := ⟨#[]⟩

instance : Inhabited SourceMap := ⟨empty⟩

def size (map : SourceMap) : Nat :=
  map.mappings.size

def isEmpty (map : SourceMap) : Bool :=
  map.mappings.isEmpty

/-- Records that an expression of the template was copied to `generated`. -/
def insert (map : SourceMap) (source generated : Span) : SourceMap :=
  ⟨map.mappings.push ⟨source, generated⟩⟩

/-- The first mapping whose template span contains the position. -/
def atSource? (map : SourceMap) (position : Position) : Option Mapping :=
  map.mappings.find? (·.source.contains position)

/-- The number of mappings that end before the generated position. -/
def endingBefore (map : SourceMap) (position : Position) : Nat :=
  partitionPoint
    (fun place =>
      match map.mappings[place]? with
      | some mapping => mapping.generated.stop.index < position.index
      | none => false)
    0 map.size

/-- The mapping whose generated span contains the position. -/
def atGenerated? (map : SourceMap) (position : Position) : Option Mapping :=
  map.mappings[map.endingBefore position]?.filter
    (·.generated.contains position)

/-- Where a template position went. -/
def toGenerated? (map : SourceMap) (position : Position) : Option Position :=
  (map.atSource? position).map fun mapping =>
    position.relocate mapping.source.start mapping.generated.start

/-- Where a generated position came from. -/
def toSource? (map : SourceMap) (position : Position) : Option Position :=
  (map.atGenerated? position).map fun mapping =>
    position.relocate mapping.generated.start mapping.source.start

end SourceMap

end Templating

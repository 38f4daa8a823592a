import Templating.Code.Module
import Templating.SourceMap

/-!
# Generation

A template file is generated either into a text with its source map or
straight into a sink.  Both stop at the first element that no code can be given
for; a sink may stop earlier.
-/

namespace Templating

/-- Why a file was not generated. -/
inductive GenerationError where
  /-- The output could not be delivered. -/
  | output (cause : OutputError)
  /-- A void element with this tag has children. -/
  | voidElementChildren (tag : String)
  deriving DecidableEq, Repr

/-- The text of an error. -/
def GenerationError.message : GenerationError → String
  | .output cause => "IO error: " ++ cause.message
  | .voidElementChildren tag =>
      "void element <" ++ tag ++ "> must not have child elements"

namespace Code

/-- The fragments of the lines before the first rejected element. -/
def acceptedFragments : List Entry → List Fragment
  | [] => []
  | .line line :: rest => line.content ++ acceptedFragments rest
  | .rejected _ :: _ => []

/-- The tag of the first rejected element. -/
def firstRejected? : List Entry → Option String
  | [] => none
  | .line _ :: rest => firstRejected? rest
  | .rejected tag :: _ => some tag

/-- The text of fragments in order. -/
def fragmentsText (fragments : List Fragment) : String :=
  String.join (fragments.map Fragment.text)

/-- The expressions among fragments that start at a cursor, each with the span
of its copy. -/
def mappingsFrom (cursor : Position) : List Fragment → List Mapping
  | [] => []
  | .copied expression :: rest =>
      let generated := Span.ofText cursor expression.value
      ⟨expression.span, generated⟩ :: mappingsFrom generated.stop rest
  | fragment :: rest => mappingsFrom (cursor.advance fragment.text) rest

/-- Writes fragments in order and records where their expressions went. -/
def writeFragments (map : SourceMap) :
    List Fragment → Tracker → Except OutputError SourceMap × Tracker
  | [], tracker => (.ok map, tracker)
  | fragment :: rest, tracker =>
      match tracker.write fragment.text with
      | (.error cause, tracker) => (.error cause, tracker)
      | (.ok generated, tracker) =>
          match fragment with
          | .copied expression =>
              writeFragments (map.insert expression.span generated) rest tracker
          | _ => writeFragments map rest tracker

end Code

/-- Generated code with its source map. -/
structure Generated where
  code : String
  map : SourceMap
  deriving DecidableEq, Repr

/-- The code of a template file and its source map. -/
def generate (file : TemplateFile) (settings : Settings) :
    Except GenerationError Generated :=
  let entries := Code.layoutModule file settings
  match Code.firstRejected? entries with
  | some tag => .error (.voidElementChildren tag)
  | none =>
      let fragments := Code.acceptedFragments entries
      .ok ⟨Code.fragmentsText fragments,
        ⟨(Code.mappingsFrom .origin fragments).toArray⟩⟩

/-- Generates a template file into a sink. -/
def generateInto (file : TemplateFile) (settings : Settings) (sink : Sink) :
    Except GenerationError SourceMap × Sink :=
  let entries := Code.layoutModule file settings
  match
    Code.writeFragments .empty (Code.acceptedFragments entries) (.start sink)
  with
  | (.error cause, tracker) => (.error (.output cause), tracker.sink)
  | (.ok map, tracker) =>
      match Code.firstRejected? entries with
      | some tag => (.error (.voidElementChildren tag), tracker.sink)
      | none => (.ok map, tracker.sink)

end Templating

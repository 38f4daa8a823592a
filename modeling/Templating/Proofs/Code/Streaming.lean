import Templating.Proofs.Code.Printing
import Templating.Proofs.Output.Limit

/-!
# Streamed generation

Fragments that are written one after the other are one delivery of their whole
text, and the mappings recorded on the way are those of that text.  So a sink
that runs full holds the first bytes of the generated code, whatever would have
come later.
-/

namespace Templating.Code

/-- The map with the expressions among some fragments that start at a
cursor. -/
def recorded (map : SourceMap) (cursor : Position)
    (fragments : List Fragment) : SourceMap :=
  ⟨map.mappings ++ (mappingsFrom cursor fragments).toArray⟩

theorem recorded_nil (map : SourceMap) (cursor : Position) :
    recorded map cursor [] = map := by
  simp [recorded, mappingsFrom]

/-- Fragments that are not expressions only move the cursor. -/
theorem recorded_cons (map : SourceMap) (cursor : Position)
    (fragment : Fragment) (rest : List Fragment) :
    recorded map cursor (fragment :: rest) =
      recorded
        (match fragment with
          | .copied expression =>
              map.insert expression.span (Span.ofText cursor fragment.text)
          | _ => map)
        (cursor.advance fragment.text) rest := by
  cases fragment with
  | copied expression =>
      simp [recorded, mappingsFrom, SourceMap.insert, Span.ofText,
        Fragment.text]
  | words text => rfl
  | quoted text => rfl
  | verbatim text => rfl

theorem recorded_empty (cursor : Position) (fragments : List Fragment) :
    recorded .empty cursor fragments =
      ⟨(mappingsFrom cursor fragments).toArray⟩ := by
  simp [recorded, SourceMap.empty]

/-- Writing fragments is one delivery of their text.  If it fails, no map is
given. -/
theorem writeFragments_eq (map : SourceMap) (fragments : List Fragment)
    (sink : Sink) (cursor : Position) :
    (writeFragments map fragments ⟨sink, cursor⟩).1 =
        (sink.writeAll (Text.bytes (fragmentsText fragments))).1.map
          (fun _ => recorded map cursor fragments) ∧
      (writeFragments map fragments ⟨sink, cursor⟩).2.sink =
        (sink.writeAll (Text.bytes (fragmentsText fragments))).2 := by
  induction fragments generalizing map sink cursor with
  | nil =>
      rw [fragmentsText_nil, Text.bytes_empty, Sink.writeAll_nil, recorded_nil]
      exact ⟨rfl, rfl⟩
  | cons fragment rest inductionHypothesis =>
      rw [fragmentsText_cons, Text.bytes_append, Sink.writeAll_append,
        writeFragments, Tracker.write]
      rcases sink.writeAll (Text.bytes fragment.text) with ⟨result, after⟩
      cases result with
      | error cause => exact ⟨rfl, rfl⟩
      | ok _ =>
          rw [recorded_cons]
          have later (map : SourceMap) := inductionHypothesis map after
            (Span.ofText cursor fragment.text).stop
          cases fragment <;> exact later _

end Templating.Code

namespace Templating

open Code

section Streaming

variable (file : TemplateFile) (settings : Settings)

/-- The text of a file up to its first rejected element. -/
def acceptedText : String :=
  fragmentsText (acceptedFragments (layoutModule file settings))

/-- The map of a file that is generated in full. -/
def wholeResult : Except GenerationError SourceMap :=
  (generate file settings).map Generated.map

/-- Streaming is one delivery of the accepted text.  A failing delivery hides
how the generation would have ended. -/
theorem generateInto_eq (sink : Sink) :
    generateInto file settings sink =
      match sink.writeAll (Text.bytes (acceptedText file settings)) with
      | (.ok (), after) => (wholeResult file settings, after)
      | (.error cause, after) => (.error (.output cause), after) := by
  rw [generateInto, acceptedText, wholeResult, generate, Tracker.start]
  generalize layoutModule file settings = entries
  have written :=
    writeFragments_eq .empty (acceptedFragments entries) sink .origin
  rw [recorded_empty] at written
  revert written
  rcases writeFragments .empty (acceptedFragments entries) ⟨sink, .origin⟩ with
    ⟨result, tracker⟩
  rcases sink.writeAll (Text.bytes (fragmentsText
    (acceptedFragments entries))) with ⟨delivered, after⟩
  rintro ⟨rfl, sameSink⟩
  have same : tracker.sink = after := sameSink
  rw [← same]
  cases delivered with
  | error cause => rfl
  | ok _ => cases firstRejected? entries <;> rfl

/-- A file is generated with its whole text, or stops at a void element. -/
theorem generate_cases :
    (∃ generated, generate file settings = .ok generated ∧
        generated.code = acceptedText file settings) ∨
      ∃ tag, generate file settings = .error (.voidElementChildren tag) := by
  rw [generate, acceptedText]
  generalize layoutModule file settings = entries
  cases firstRejected? entries with
  | none => exact .inl ⟨_, rfl, rfl⟩
  | some tag => exact .inr ⟨tag, rfl⟩

/-- An unlimited sink takes the whole accepted text. -/
theorem generateInto_unlimited :
    (generateInto file settings .unlimited).1 = wholeResult file settings ∧
      (generateInto file settings .unlimited).2.bytes =
        Text.bytes (acceptedText file settings) := by
  have everything :=
    Sink.writeAll_unlimited (Text.bytes (acceptedText file settings))
  rw [generateInto_eq]
  revert everything
  rcases Sink.unlimited.writeAll (Text.bytes (acceptedText file settings)) with
    ⟨delivered, after⟩
  rintro ⟨rfl, bytes⟩
  exact ⟨rfl, bytes⟩

/-- A sink with limited room holds the first bytes of what an unlimited sink
gets.  The result is the same if everything fits, and the failure of the sink
if not, even if the generation would have failed later on.  An unlimited sink
gets the code of the file with its map, or the code before the first void
element with children and an error for that element. -/
theorem generateInto_limited (room : Nat) (whenFull : WhenFull) :
    let whole := generateInto file settings .unlimited
    let cut := generateInto file settings (.limited room whenFull)
    cut.2.bytes = whole.2.bytes.take room ∧
      (whole.2.bytes.length ≤ room → cut.1 = whole.1) ∧
      (room < whole.2.bytes.length →
        cut.1 = .error (.output whenFull.failure)) ∧
      ((∃ generated, generate file settings = .ok generated ∧
          whole.1 = .ok generated.map ∧
          Text.bytes generated.code = whole.2.bytes) ∨
        ∃ tag, generate file settings = .error (.voidElementChildren tag) ∧
          whole.1 = .error (.voidElementChildren tag)) := by
  intro whole cut
  rcases generateInto_unlimited file settings with ⟨wholeIs, wholeBytes⟩
  have beginning := Sink.writeAll_limited room whenFull
    (Text.bytes (acceptedText file settings))
  have cutIs : cut = _ := generateInto_eq file settings (.limited room whenFull)
  rcases delivery : (Sink.limited room whenFull).writeAll
    (Text.bytes (acceptedText file settings)) with ⟨delivered, after⟩
  rw [delivery] at beginning cutIs
  have fails : delivered = _ := beginning.1
  have bytes : after.bytes = _ := beginning.2
  rw [show whole.2.bytes = _ from wholeBytes, show whole.1 = _ from wholeIs]
  refine ⟨?_, ?_, ?_, ?_⟩
  · rw [cutIs, ← bytes]
    cases delivered <;> rfl
  · intro fits
    rw [if_neg (Nat.not_lt.mpr fits)] at fails
    rw [cutIs, fails]
  · intro short
    rw [if_pos short] at fails
    rw [cutIs, fails]
  · rcases generate_cases file settings with ⟨generated, ok, code⟩ | ⟨tag, error⟩
    · refine .inl ⟨generated, ok, ?_, ?_⟩
      · rw [wholeResult, ok]
        rfl
      · rw [code]
    · refine .inr ⟨tag, error, ?_⟩
      rw [wholeResult, error]
      rfl

end Streaming

end Templating

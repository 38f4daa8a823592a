import Mathlib.Data.List.Chain
import Templating.Output.Tracker
import Templating.Proofs.Output.Limit
import Templating.Proofs.Position.Cursor

/-!
# Tracking a bounded output

A tracker is used again and again, also after writes that failed.  Its cursor
stands behind the pieces that were written whole, each step of indentation being
a piece of its own, and its sink holds the first bytes of all that was asked
for.

Nothing is lost by going on after a failure: a sink refuses a piece only when it
is full, so only empty texts are written from then on.
-/

namespace Templating

/-- Steps of indentation. -/
def indentation (level : Nat) : String :=
  String.join (List.replicate level indentUnit)

@[simp]
theorem indentation_zero : indentation 0 = "" := rfl

theorem indentation_succ (level : Nat) :
    indentation (level + 1) = indentUnit ++ indentation level := by
  rw [indentation, List.replicate_succ, String.join_cons, indentation]

theorem indentation_add (first second : Nat) :
    indentation (first + second) = indentation first ++ indentation second := by
  rw [indentation, List.replicate_add, String.join_append, indentation,
    indentation]

theorem Position.advance_indentation_zero (position : Position) :
    position.advance (indentation 0) = position :=
  position.advance_empty

theorem Position.advance_indentation_succ (position : Position) (level : Nat) :
    position.advance (indentation (level + 1)) =
      (position.advance indentUnit).advance (indentation level) := by
  rw [indentation_succ, advance_append]

namespace Tracker

/-! ## Operations -/

/-- A use of a tracker. -/
inductive Operation where
  | write (text : String)
  /-- Writes a text behind steps of indentation. -/
  | indent (level : Nat) (text : String)
  deriving DecidableEq, Repr

namespace Operation

def level : Operation → Nat
  | .write _ => 0
  | .indent level _ => level

def text : Operation → String
  | .write text => text
  | .indent _ text => text

/-- The pieces that are written one after the other. -/
def pieces (operation : Operation) : List String :=
  List.replicate operation.level indentUnit ++ [operation.text]

/-- What the operation does to a tracker. -/
def perform : Operation → Tracker → Except OutputError Span × Tracker
  | .write text, tracker => tracker.write text
  | .indent level text, tracker => tracker.writeIndented level text

theorem perform_eq (operation : Operation) (tracker : Tracker) :
    operation.perform tracker =
      tracker.writeIndented operation.level operation.text := by
  cases operation <;> rfl

end Operation

/-- The tracker after some operations, whether they succeeded or not. -/
def after (tracker : Tracker) (operations : List Operation) : Tracker :=
  operations.foldl (fun tracker operation => (operation.perform tracker).2)
    tracker

@[simp]
theorem after_nil (tracker : Tracker) : tracker.after [] = tracker := rfl

@[simp]
theorem after_cons (tracker : Tracker) (operation : Operation)
    (rest : List Operation) :
    tracker.after (operation :: rest) =
      (operation.perform tracker).2.after rest := rfl

theorem after_concat (tracker : Tracker) (operations : List Operation)
    (operation : Operation) :
    tracker.after (operations ++ [operation]) =
      (operation.perform (tracker.after operations)).2 :=
  List.foldl_concat _ _ _ _

/-- The spans that some operations give, leaving out those that fail. -/
def spans (tracker : Tracker) : List Operation → List Span
  | [] => []
  | operation :: rest =>
      match operation.perform tracker with
      | (.ok span, next) => span :: next.spans rest
      | (.error _, next) => next.spans rest

/-! ## Cursors -/

section Steps

variable {tracker next : Tracker} {level : Nat} {text : String} {span : Span}
  {cause : OutputError}

theorem write_ok (ok : tracker.write text = (.ok span, next)) :
    span = .ofText tracker.position text ∧ next.position = span.stop := by
  rw [write] at ok
  split at ok
  · cases ok
    exact ⟨rfl, rfl⟩
  · cases ok

theorem write_error (error : tracker.write text = (.error cause, next)) :
    next.position = tracker.position := by
  rw [write] at error
  split at error
  · cases error
  · cases error
    rfl

/-- A successful operation gives the span of its text alone. -/
theorem writeIndented_ok
    (ok : tracker.writeIndented level text = (.ok span, next)) :
    span = .ofText (tracker.position.advance (indentation level)) text ∧
      next.position = span.stop := by
  induction level generalizing tracker with
  | zero =>
      rw [Position.advance_indentation_zero]
      exact write_ok ok
  | succ level inductionHypothesis =>
      rw [writeIndented] at ok
      split at ok
      · rename_i unit between indented
        rcases write_ok indented with ⟨rfl, position⟩
        rw [Position.advance_indentation_succ]
        rcases inductionHypothesis ok with ⟨rfl, stop⟩
        rw [position] at stop ⊢
        exact ⟨rfl, stop⟩
      · cases ok

/-- A failed operation moves the cursor over whole steps of indentation only. -/
theorem writeIndented_error
    (error : tracker.writeIndented level text = (.error cause, next)) :
    ∃ units ≤ level,
      next.position = tracker.position.advance (indentation units) := by
  induction level generalizing tracker with
  | zero =>
      refine ⟨0, Nat.le_refl 0, ?_⟩
      rw [Position.advance_indentation_zero]
      exact write_error error
  | succ level inductionHypothesis =>
      rw [writeIndented] at error
      split at error
      · rename_i unit between indented
        rcases write_ok indented with ⟨rfl, position⟩
        rcases inductionHypothesis error with ⟨units, le, moved⟩
        refine ⟨units + 1, Nat.succ_le_succ le, ?_⟩
        rw [Position.advance_indentation_succ, moved, position]
        rfl
      · rename_i failure between failed
        cases error
        refine ⟨0, Nat.zero_le _, ?_⟩
        rw [Position.advance_indentation_zero]
        exact write_error failed

end Steps

/-! ## Spans in order -/

/-- The later span starts where reading on behind the earlier one leads. -/
def Behind (later earlier : Span) : Prop :=
  ∃ text, later.start = earlier.stop.advance text

theorem Behind.le {later earlier : Span} (behind : Behind later earlier) :
    earlier.stop.index ≤ later.start.index ∧
      earlier.stop.line ≤ later.start.line := by
  rcases behind with ⟨text, start⟩
  rw [start, Position.advance_eq]
  exact ⟨le_saturatingAdd _ _, le_saturatingAdd _ _⟩

/-- Between the two spans there are only steps of indentation. -/
def Adjoins (earlier later : Span) : Prop :=
  ∃ units, later.start = earlier.stop.advance (indentation units)

/-- The empty span at a position. -/
def here (position : Position) : Span := ⟨position, position⟩

theorem Adjoins.of_advance {position : Position} {units : Nat} {later : Span}
    (adjoins :
      Adjoins (here (position.advance (indentation units))) later) :
    Adjoins (here position) later := by
  rcases adjoins with ⟨more, start⟩
  refine ⟨units + more, ?_⟩
  rw [start, indentation_add, Position.advance_append]
  rfl

theorem isChain_spans (tracker : Tracker) (operations : List Operation) :
    (here tracker.position :: tracker.spans operations).IsChain Adjoins := by
  induction operations generalizing tracker with
  | nil => exact .singleton _
  | cons operation rest inductionHypothesis =>
      rw [spans]
      split
      · rename_i span next performed
        rw [Operation.perform_eq] at performed
        rcases writeIndented_ok performed with ⟨rfl, position⟩
        have later := inductionHypothesis next
        rw [position, List.isChain_cons] at later
        refine .cons_cons ⟨operation.level, rfl⟩ ?_
        exact List.isChain_cons.mpr
          ⟨fun span isNext => later.1 span isNext, later.2⟩
      · rename_i cause next performed
        rw [Operation.perform_eq] at performed
        rcases writeIndented_error performed with ⟨units, _, position⟩
        have later := inductionHypothesis next
        rw [position, List.isChain_cons] at later
        exact List.isChain_cons.mpr
          ⟨fun span isNext => (later.1 span isNext).of_advance, later.2⟩

theorem behind_spans (tracker : Tracker) (operations : List Operation) :
    (∀ span ∈ tracker.spans operations, Behind span (here tracker.position)) ∧
      (tracker.spans operations).Pairwise fun earlier later =>
        Behind later earlier := by
  induction operations generalizing tracker with
  | nil => exact ⟨fun span member => absurd member List.not_mem_nil, .nil⟩
  | cons operation rest inductionHypothesis =>
      rw [spans]
      split
      · rename_i span next performed
        rw [Operation.perform_eq] at performed
        rcases writeIndented_ok performed with ⟨rfl, position⟩
        have later := inductionHypothesis next
        rw [position] at later
        refine ⟨?_, .cons later.1 later.2⟩
        intro span member
        rcases List.mem_cons.mp member with rfl | member
        · exact ⟨indentation operation.level, rfl⟩
        · rcases later.1 span member with ⟨text, start⟩
          refine ⟨indentation operation.level ++ operation.text ++ text, ?_⟩
          rw [start, Position.advance_append, Position.advance_append]
          rfl
      · rename_i cause next performed
        rw [Operation.perform_eq] at performed
        rcases writeIndented_error performed with ⟨units, _, position⟩
        have later := inductionHypothesis next
        rw [position] at later
        refine ⟨?_, later.2⟩
        intro span member
        rcases later.1 span member with ⟨text, start⟩
        refine ⟨indentation units ++ text, ?_⟩
        rw [start, Position.advance_append]
        rfl

/-! ## Limited sinks -/

/-- All pieces that some operations ask for. -/
def requested (operations : List Operation) : List String :=
  operations.flatMap Operation.pieces

theorem requested_concat (operations : List Operation)
    (operation : Operation) :
    requested (operations ++ [operation]) =
      requested operations ++ operation.pieces := by
  rw [requested, List.flatMap_append, List.flatMap_singleton, requested]

/-- The size of pieces in bytes. -/
def size (pieces : List String) : Nat :=
  (String.join pieces).utf8ByteSize

theorem size_append (first second : List String) :
    size (first ++ second) = size first + size second := by
  rw [size, String.join_append, String.utf8ByteSize_append, size, size]

theorem size_cons (piece : String) (rest : List String) :
    size (piece :: rest) = piece.utf8ByteSize + size rest := by
  rw [size, String.join_cons, String.utf8ByteSize_append, size]

theorem size_le_append (first second : List String) :
    size first ≤ size (first ++ second) := by
  rw [size_append]
  exact Nat.le_add_right _ _

/-- The pieces that lie within a number of bytes, up to the first one that does
not. -/
def whole (room : Nat) : List String → List String
  | [] => []
  | piece :: rest =>
      if piece.utf8ByteSize ≤ room then
        piece :: whole (room - piece.utf8ByteSize) rest
      else
        []

section Whole

variable {room : Nat} {pieces : List String}

theorem whole_append_of_le (fits : size pieces ≤ room) (more : List String) :
    whole room (pieces ++ more) = pieces ++ whole (room - size pieces) more := by
  induction pieces generalizing room with
  | nil => rfl
  | cons piece rest inductionHypothesis =>
      rw [size_cons] at fits ⊢
      rw [List.cons_append, whole, if_pos (by omega),
        inductionHypothesis (by omega), Nat.sub_sub]
      rfl

theorem whole_append_of_lt (short : room < size pieces) (more : List String) :
    whole room (pieces ++ more) = whole room pieces := by
  induction pieces generalizing room with
  | nil => exact absurd short (Nat.not_lt_zero room)
  | cons piece rest inductionHypothesis =>
      rw [size_cons] at short
      rw [List.cons_append, whole, whole]
      split
      · rw [inductionHypothesis (by omega)]
      · rfl

theorem whole_of_le (fits : size pieces ≤ room) : whole room pieces = pieces := by
  have alone := whole_append_of_le fits []
  rwa [List.append_nil, whole, List.append_nil] at alone

/-- One more piece counts if it still fits; an empty piece makes no
difference. -/
theorem join_whole_concat (text : String) :
    String.join (whole room (pieces ++ [text])) =
      String.join (whole room pieces) ++
        if size (pieces ++ [text]) ≤ room ∨ text = "" then text else "" := by
  have total : size (pieces ++ [text]) = size pieces + text.utf8ByteSize := by
    rw [size_append, size_cons, size]
    rfl
  by_cases fits : size pieces ≤ room
  · rw [whole_append_of_le fits, whole_of_le fits, whole, String.join_append]
    congr 1
    by_cases next : text.utf8ByteSize ≤ room - size pieces
    · rw [if_pos next, if_pos (.inl (by omega)), whole, String.join_cons,
        String.join_nil, String.append_empty]
    · rw [if_neg next, if_neg, String.join_nil]
      rintro (inside | rfl)
      · omega
      · exact next (Nat.zero_le _)
  · rw [whole_append_of_lt (Nat.lt_of_not_le fits)]
    have nothing : (if size (pieces ++ [text]) ≤ room ∨ text = "" then text
        else "") = "" := by
      split
      · rename_i written
        rcases written with inside | empty
        · omega
        · exact empty
      · rfl
    rw [nothing, String.append_empty]

end Whole

/-- The tracker was asked for these pieces: its sink holds their first bytes and
its cursor is behind the whole ones. -/
structure Tracks (room : Nat) (whenFull : WhenFull) (pieces : List String)
    (tracker : Tracker) : Prop where
  sink : tracker.sink =
    (Sink.limited room whenFull).take (Text.bytes (String.join pieces))
  position : tracker.position =
    Position.origin.advance (String.join (whole room pieces))

theorem tracks_start (room : Nat) (whenFull : WhenFull) :
    Tracks room whenFull [] (start (.limited room whenFull)) :=
  ⟨(Sink.take_nil _).symm, rfl⟩

section Tracks

variable {room : Nat} {whenFull : WhenFull} {pieces : List String}
  {tracker : Tracker}

/-- When the sink is full, what is asked for is not given. -/
theorem Tracks.overflow (tracks : Tracks room whenFull pieces tracker)
    (short : room < size pieces) (more : List String) :
    Tracks room whenFull (pieces ++ more) tracker := by
  constructor
  · rw [tracks.sink, String.join_append, Text.bytes_append,
      Sink.take_limited_append_of_lt]
    rwa [Text.length_bytes]
  · rw [whole_append_of_lt short]
    exact tracks.position

/-- A text is written if everything up to its end fits or if it is empty. -/
theorem Tracks.write (tracks : Tracks room whenFull pieces tracker)
    (text : String) :
    (tracker.write text).1 =
        (if size (pieces ++ [text]) ≤ room ∨ text = "" then
          .ok (.ofText tracker.position text)
        else
          .error whenFull.failure) ∧
      Tracks room whenFull (pieces ++ [text]) (tracker.write text).2 := by
  have joined : String.join (pieces ++ [text]) = String.join pieces ++ text := by
    rw [String.join_append, String.join_cons, String.join_nil,
      String.append_empty]
  have delivery := Sink.writeAll_take_limited room whenFull
    (Text.bytes (String.join pieces)) (Text.bytes text)
  rw [← tracks.sink, ← Text.bytes_append, ← joined, Text.length_bytes,
    ← size] at delivery
  have isEmpty : Text.bytes text = [] ↔ text = "" := by
    rw [← List.length_eq_zero_iff, Text.length_bytes,
      String.utf8ByteSize_eq_zero_iff]
  have position : String.join (whole room (pieces ++ [text])) =
      String.join (whole room pieces) ++
        if size (pieces ++ [text]) ≤ room ∨ text = "" then text else "" :=
    join_whole_concat text
  simp only [isEmpty] at delivery
  by_cases written : size (pieces ++ [text]) ≤ room ∨ text = ""
  · rw [if_pos written] at delivery position ⊢
    rw [Tracker.write, delivery]
    refine ⟨rfl, rfl, ?_⟩
    rw [position, Position.advance_append, ← tracks.position]
    rfl
  · rw [if_neg written] at delivery position ⊢
    rw [Tracker.write, delivery]
    refine ⟨rfl, rfl, ?_⟩
    rw [position, String.append_empty]
    exact tracks.position

/-- A text behind indentation succeeds if everything up to its end fits or if it
asks for nothing. -/
theorem Tracks.writeIndented (tracks : Tracks room whenFull pieces tracker)
    (level : Nat) (text : String) :
    (tracker.writeIndented level text).1 =
        (if size (pieces ++ (List.replicate level indentUnit ++ [text])) ≤ room ∨
            level = 0 ∧ text = "" then
          .ok (.ofText (tracker.position.advance (indentation level)) text)
        else
          .error whenFull.failure) ∧
      Tracks room whenFull
        (pieces ++ (List.replicate level indentUnit ++ [text]))
        (tracker.writeIndented level text).2 := by
  induction level generalizing pieces tracker with
  | zero =>
      have step := tracks.write text
      rw [List.replicate_zero, List.nil_append, indentation_zero,
        Position.advance_empty, Tracker.writeIndented]
      simpa only [true_and] using step
  | succ level inductionHypothesis =>
      have shape : pieces ++ (List.replicate (level + 1) indentUnit ++ [text]) =
          (pieces ++ [indentUnit]) ++
            (List.replicate level indentUnit ++ [text]) := by
        rw [List.replicate_succ, List.append_assoc]
        rfl
      rcases tracks.write indentUnit with ⟨unit, tracks'⟩
      rcases written : tracker.write indentUnit with ⟨result, between⟩
      rw [written] at unit tracks'
      have onlyByFit : ∀ {fits : Prop}, (fits ∨ indentUnit = "") ↔ fits :=
        or_iff_left (by decide)
      simp only [onlyByFit] at unit
      rw [shape, Tracker.writeIndented, written]
      by_cases fits : size (pieces ++ [indentUnit]) ≤ room
      · rw [if_pos fits] at unit
        subst unit
        rcases inductionHypothesis tracks' with ⟨rest, tracks''⟩
        refine ⟨?_, tracks''⟩
        have position : between.position = tracker.position.advance indentUnit :=
          (write_ok written).2
        have emptyFits : level = 0 ∧ text = "" →
            size ((pieces ++ [indentUnit]) ++
              (List.replicate level indentUnit ++ [text])) ≤ room := by
          rintro ⟨rfl, rfl⟩
          rw [size_append]
          exact fits
        have succNe : ¬(level + 1 = 0 ∧ text = "") :=
          fun nothing => Nat.succ_ne_zero level nothing.1
        rw [rest, position, ← Position.advance_indentation_succ]
        simp only [or_iff_left_of_imp emptyFits, or_iff_left succNe]
      · rw [if_neg fits] at unit
        subst unit
        refine ⟨(if_neg ?_).symm, tracks'.overflow (Nat.lt_of_not_le fits) _⟩
        rintro (inside | nothing)
        · exact fits (Nat.le_trans (size_le_append _ _) inside)
        · exact absurd nothing.1 (Nat.succ_ne_zero level)

/-- Every operation keeps what a tracker was asked for. -/
theorem Tracks.perform (tracks : Tracks room whenFull pieces tracker)
    (operation : Operation) :
    (operation.perform tracker).1 =
        (if size (pieces ++ operation.pieces) ≤ room ∨
            operation.level = 0 ∧ operation.text = "" then
          .ok (.ofText
            (tracker.position.advance (indentation operation.level))
            operation.text)
        else
          .error whenFull.failure) ∧
      Tracks room whenFull (pieces ++ operation.pieces)
        (operation.perform tracker).2 := by
  rw [operation.perform_eq]
  exact tracks.writeIndented operation.level operation.text

end Tracks

theorem tracks_after (room : Nat) (whenFull : WhenFull)
    (operations : List Operation) :
    Tracks room whenFull (requested operations)
      ((start (.limited room whenFull)).after operations) := by
  induction operations using List.reverseRecOn with
  | nil => exact tracks_start room whenFull
  | append_singleton earlier operation inductionHypothesis =>
      rw [requested_concat, after_concat]
      exact (inductionHypothesis.perform operation).2

/-- A successful operation leaves the cursor behind its span, a failed one
behind the steps of indentation it wrote. -/
theorem position_perform (operation : Operation) (tracker : Tracker) :
    match operation.perform tracker with
    | (.ok span, next) =>
        span = .ofText
            (tracker.position.advance (indentation operation.level))
            operation.text ∧
          next.position = span.stop
    | (.error _, next) =>
        ∃ units ≤ operation.level,
          next.position = tracker.position.advance (indentation units) := by
  split
  · rename_i span next performed
    rw [operation.perform_eq] at performed
    exact writeIndented_ok performed
  · rename_i cause next performed
    rw [operation.perform_eq] at performed
    exact writeIndented_error performed

/-- How texts are cut makes no difference to a position, also to one with
counters at their largest value.  However much room a sink has and whichever
operations fail, the sink holds the first bytes of all that was asked for, the
cursor is behind the pieces written whole, the spans given follow each other
with indentation between them, and an operation succeeds if everything up to
its end fits or if it asks for nothing.  It then gives the span of its text
alone; otherwise the cursor moves over steps of indentation only, and over none
if the text has none. -/
theorem accounts_for_output :
    (∀ (position : Position) (first second : String),
      (position.advance first).advance second =
        position.advance (first ++ second)) ∧
    ∀ (room : Nat) (whenFull : WhenFull) (operations : List Operation),
      let begin := start (.limited room whenFull)
      let tracker := begin.after operations
      tracker.sink.bytes =
          (Text.bytes (String.join (requested operations))).take room ∧
        tracker.position =
          Position.origin.advance
            (String.join (whole room (requested operations))) ∧
        (here .origin :: begin.spans operations).IsChain Adjoins ∧
        (begin.spans operations).Pairwise (fun earlier later =>
          earlier.stop.index ≤ later.start.index ∧
            earlier.stop.line ≤ later.start.line) ∧
        ∀ operation : Operation,
          (operation.perform tracker).1 =
              (if size (requested (operations ++ [operation])) ≤ room ∨
                  operation.level = 0 ∧ operation.text = "" then
                .ok (.ofText
                  (tracker.position.advance (indentation operation.level))
                  operation.text)
              else
                .error whenFull.failure) ∧
            match operation.perform tracker with
            | (.ok span, next) => next.position = span.stop
            | (.error _, next) =>
                ∃ units ≤ operation.level,
                  next.position =
                    tracker.position.advance (indentation units) := by
  refine ⟨fun position first second =>
    (Position.advance_append position first second).symm, ?_⟩
  intro room whenFull operations begin tracker
  have tracks : Tracks room whenFull (requested operations) tracker :=
    tracks_after room whenFull operations
  refine ⟨?_, tracks.position, isChain_spans begin operations, ?_, ?_⟩
  · rw [tracks.sink, ← (Sink.writeAll_limited room whenFull _).2,
      Sink.writeAll_eq]
  · exact (behind_spans begin operations).2.imp fun behind => behind.le
  · intro operation
    refine ⟨?_, ?_⟩
    · rw [requested_concat]
      exact (tracks.perform operation).1
    · have moved := position_perform operation tracker
      split at moved
      · exact moved.2
      · exact moved

end Tracker

end Templating

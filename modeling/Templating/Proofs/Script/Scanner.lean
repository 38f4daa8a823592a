import Templating.Proofs.Text.Piece

/-!
# The lexical state of a script

A script is read one character at a time.  At every place it is in code, in a
comment or in a string, and some brackets are open.  Templates are strings that
hold code again in their substitutions.

The reading knows brackets, strings and comments and nothing else: a slash that
starts no comment is taken for a division, so what looks like a string or a
bracket within a regular expression is read as one.
-/

namespace Templating.JavaScript

/-- The brackets of code; a substitution is one that a template opens. -/
inductive Bracket where
  | round
  | square
  | curly
  | substitution
  deriving DecidableEq, Repr

inductive Quote where
  | single
  | double
  | template
  deriving DecidableEq, Repr

def Quote.mark : Quote → Char
  | .single => '\x27'
  | .double => '"'
  | .template => '\x60'

/-- Where a place in a script is. -/
inductive Mode where
  | code
  /-- In code, behind a slash that may start a comment. -/
  | slash
  | lineComment
  | blockComment
  /-- In a block comment, behind a star. -/
  | blockStar
  | quoted (quote : Quote)
  /-- In a string, behind a backslash. -/
  | escaped (quote : Quote)
  /-- In a string, behind a backslash and the first half of a line end. -/
  | continued (quote : Quote)
  /-- In a template, behind a dollar sign. -/
  | dollar
  deriving DecidableEq, Repr

/-- A mode and the open brackets, innermost first. -/
structure State where
  mode : Mode
  brackets : List Bracket
  deriving DecidableEq, Repr

/-- In code, and outside of all brackets. -/
def outside : State := ⟨.code, []⟩

/-- The characters that end a line. -/
def lineEnds : List Char := ['\n', '\r', '\u2028', '\u2029']

/-- Closes the innermost bracket, if it is one of this kind. -/
def close (character : Char) : List Bracket → Option State
  | .round :: rest => if character = ')' then some ⟨.code, rest⟩ else none
  | .square :: rest => if character = ']' then some ⟨.code, rest⟩ else none
  | .curly :: rest => if character = '\x7d' then some ⟨.code, rest⟩ else none
  | .substitution :: rest =>
      if character = '\x7d' then some ⟨.quoted .template, rest⟩ else none
  | [] => none

def codeStep (brackets : List Bracket) (character : Char) : Option State :=
  match character with
  | '/' => some ⟨.slash, brackets⟩
  | '\x27' => some ⟨.quoted .single, brackets⟩
  | '"' => some ⟨.quoted .double, brackets⟩
  | '\x60' => some ⟨.quoted .template, brackets⟩
  | '(' => some ⟨.code, .round :: brackets⟩
  | '[' => some ⟨.code, .square :: brackets⟩
  | '\x7b' => some ⟨.code, .curly :: brackets⟩
  | ')' | ']' | '\x7d' => close character brackets
  | _ => some ⟨.code, brackets⟩

/-- A line may end in a template and in no other string. -/
def quotedStep (quote : Quote) (brackets : List Bracket) (character : Char) :
    Option State :=
  if character = quote.mark then
    some ⟨.code, brackets⟩
  else if character = '\\' then
    some ⟨.escaped quote, brackets⟩
  else if quote = .template then
    some ⟨if character = '$' then .dollar else .quoted quote, brackets⟩
  else if character = '\n' ∨ character = '\r' then
    none
  else
    some ⟨.quoted quote, brackets⟩

/-- Reads one character.  There is no next state where a bracket is closed that
is not open, or where a line ends in a string. -/
def step : State → Char → Option State
  | ⟨.code, brackets⟩, character => codeStep brackets character
  | ⟨.slash, brackets⟩, character =>
      if character = '/' then some ⟨.lineComment, brackets⟩
      else if character = '*' then some ⟨.blockComment, brackets⟩
      else codeStep brackets character
  | ⟨.lineComment, brackets⟩, character =>
      some ⟨if character ∈ lineEnds then .code else .lineComment, brackets⟩
  | ⟨.blockComment, brackets⟩, character =>
      some ⟨if character = '*' then .blockStar else .blockComment, brackets⟩
  | ⟨.blockStar, brackets⟩, character =>
      some ⟨if character = '/' then .code
        else if character = '*' then .blockStar else .blockComment, brackets⟩
  | ⟨.quoted quote, brackets⟩, character => quotedStep quote brackets character
  | ⟨.escaped quote, brackets⟩, character =>
      some ⟨if character = '\r' then .continued quote else .quoted quote,
        brackets⟩
  | ⟨.continued quote, brackets⟩, character =>
      if character = '\n' then some ⟨.quoted quote, brackets⟩
      else quotedStep quote brackets character
  | ⟨.dollar, brackets⟩, character =>
      if character = '\x7b' then some ⟨.code, .substitution :: brackets⟩
      else quotedStep .template brackets character

/-- Reads a text. -/
def scan : State → List Char → Option State :=
  List.foldlM step

/-- Brackets and marks in strings and comments are not read as such. -/
example : scan outside "f('\x7d', `a$\x7bg([1])\x7db`) /* ' */ // \"".toList =
    some ⟨.lineComment, []⟩ := by decide

theorem scan_cons (state : State) (character : Char) (text : List Char) :
    scan state (character :: text) =
      (step state character).bind fun next => scan next text :=
  List.foldlM_cons

theorem scan_append (state : State) (first second : List Char) :
    scan state (first ++ second) =
      (scan state first).bind fun between => scan between second :=
  List.foldlM_append

/-! ## Brackets around a text -/

/-- The state with further brackets open around everything. -/
def State.within (outer : List Bracket) (state : State) : State :=
  ⟨state.mode, state.brackets ++ outer⟩

variable {outer : List Bracket} {state after : State} {character : Char}

theorem close_within {brackets : List Bracket}
    (closed : close character brackets = some after) :
    close character (brackets ++ outer) = some (after.within outer) := by
  cases brackets with
  | nil => cases closed
  | cons bracket rest =>
      cases bracket <;>
        (rw [close, Option.ite_none_right_eq_some] at closed
         rcases closed with ⟨matching, same⟩
         cases same
         rw [List.cons_append, close, if_pos matching]
         rfl)

theorem codeStep_within {brackets : List Bracket}
    (stepped : codeStep brackets character = some after) :
    codeStep (brackets ++ outer) character = some (after.within outer) := by
  unfold codeStep at stepped ⊢
  split at stepped
  case h_8 | h_9 | h_10 => exact close_within stepped
  all_goals
    cases stepped
    rfl

theorem quotedStep_within {quote : Quote} {brackets : List Bracket}
    (stepped : quotedStep quote brackets character = some after) :
    quotedStep quote (brackets ++ outer) character =
      some (after.within outer) := by
  unfold quotedStep at stepped ⊢
  split_ifs at stepped ⊢
  all_goals
    cases stepped
    rfl

/-- A step that does not touch the brackets around a text is made whichever
brackets are around it. -/
theorem step_within (stepped : step state character = some after) :
    step (state.within outer) character = some (after.within outer) := by
  rcases state with ⟨mode, brackets⟩
  rw [State.within]
  cases mode with
  | code => exact codeStep_within stepped
  | slash =>
      rw [step] at stepped ⊢
      split_ifs at stepped ⊢
      · cases stepped
        rfl
      · cases stepped
        rfl
      · exact codeStep_within stepped
  | lineComment | blockComment | blockStar | escaped quote =>
      cases stepped
      rfl
  | quoted quote => exact quotedStep_within stepped
  | continued quote | dollar =>
      rw [step] at stepped ⊢
      split_ifs at stepped ⊢
      · cases stepped
        rfl
      · exact quotedStep_within stepped

theorem scan_within {text : List Char} (scanned : scan state text = some after) :
    scan (state.within outer) text = some (after.within outer) := by
  induction text generalizing state with
  | nil =>
      cases scanned
      rfl
  | cons character rest inductionHypothesis =>
      rw [scan_cons, Option.bind_eq_some_iff] at scanned
      rcases scanned with ⟨next, stepped, later⟩
      rw [scan_cons, step_within stepped]
      exact inductionHypothesis later

/-! ## Plain code -/

/-- The characters that code is not only passed at. -/
def marks : List Char :=
  ['/', '\x27', '"', '\x60', '(', '[', '\x7b', ')', ']', '\x7d']

theorem codeStep_of_not_mem (plain : character ∉ marks)
    (brackets : List Bracket) :
    codeStep brackets character = some ⟨.code, brackets⟩ := by
  unfold codeStep
  split
  case h_11 => rfl
  all_goals exact absurd plain (by decide)

/-- Code without marks leaves the state alone. -/
theorem scan_plain {text : List Char}
    (plain : ∀ character ∈ text, character ∉ marks) (brackets : List Bracket) :
    scan ⟨.code, brackets⟩ text = some ⟨.code, brackets⟩ := by
  induction text with
  | nil => rfl
  | cons character rest inductionHypothesis =>
      rw [scan_cons, step,
        codeStep_of_not_mem (plain character List.mem_cons_self)]
      exact inductionHypothesis fun other member =>
        plain other (List.mem_cons_of_mem _ member)

theorem not_mem_marks_of_isBlank (blank : Text.isBlank character = true) :
    character ∉ marks :=
  Text.not_mem_of_isBlank (by decide) blank

/-! ## Complete texts -/

/-- No string and no block comment is open. -/
def Mode.isSettled : Mode → Bool
  | .code | .slash | .lineComment => true
  | _ => false

/-- The text is lexically complete: its strings and block comments are closed
and its brackets are balanced.  Its end may be the end of a line comment. -/
def IsComplete (text : List Char) : Prop :=
  ∃ mode, mode.isSettled = true ∧ scan outside text = some ⟨mode, []⟩

/-- The end of the text is in a line comment. -/
def EndsInLineComment (text : List Char) : Prop :=
  scan outside text = some ⟨.lineComment, []⟩

theorem quotedStep_blank (blank : Text.isBlank character = true)
    {quote : Quote} {brackets : List Bracket}
    (stepped : quotedStep quote brackets character = some after) :
    after = ⟨.quoted quote, brackets⟩ := by
  have visible : character ∉ [quote.mark, '\\', '$'] :=
    Text.not_mem_of_isBlank (by cases quote <;> decide) blank
  simp only [List.mem_cons, List.not_mem_nil, or_false, not_or] at visible
  rw [quotedStep, if_neg visible.1, if_neg visible.2.1,
    if_neg visible.2.2] at stepped
  split_ifs at stepped
  all_goals
    cases stepped
    rfl

/-- Blanks open and close no bracket, and they end no string and no block
comment. -/
theorem step_blank (blank : Text.isBlank character = true)
    (stepped : step state character = some after) :
    after.brackets = state.brackets ∧
      (after.mode.isSettled = true → state.mode.isSettled = true) := by
  have noMark := not_mem_marks_of_isBlank blank
  have visible : character ∉ ['/', '*', '\x7b'] :=
    Text.not_mem_of_isBlank (by decide) blank
  simp only [List.mem_cons, List.not_mem_nil, or_false, not_or] at visible
  rcases visible with ⟨noSlash, noStar, noBrace⟩
  rcases state with ⟨mode, brackets⟩
  cases mode with
  | code =>
      rw [step, codeStep_of_not_mem noMark] at stepped
      cases stepped
      exact ⟨rfl, id⟩
  | slash =>
      rw [step, if_neg noSlash, if_neg noStar,
        codeStep_of_not_mem noMark] at stepped
      cases stepped
      exact ⟨rfl, id⟩
  | lineComment =>
      cases stepped
      exact ⟨rfl, fun _ => rfl⟩
  | blockComment =>
      rw [step, if_neg noStar] at stepped
      cases stepped
      exact ⟨rfl, id⟩
  | blockStar =>
      rw [step, if_neg noSlash, if_neg noStar] at stepped
      cases stepped
      exact ⟨rfl, id⟩
  | quoted quote =>
      cases quotedStep_blank blank stepped
      exact ⟨rfl, id⟩
  | escaped quote =>
      cases stepped
      refine ⟨rfl, ?_⟩
      dsimp only
      split <;> exact id
  | continued quote =>
      rw [step] at stepped
      split_ifs at stepped
      · cases stepped
        exact ⟨rfl, id⟩
      · cases quotedStep_blank blank stepped
        exact ⟨rfl, id⟩
  | dollar =>
      rw [step, if_neg noBrace] at stepped
      cases quotedStep_blank blank stepped
      exact ⟨rfl, id⟩

theorem scan_blanks {text : List Char}
    (blank : ∀ character ∈ text, Text.isBlank character = true)
    (scanned : scan state text = some after) :
    after.brackets = state.brackets ∧
      (after.mode.isSettled = true → state.mode.isSettled = true) := by
  induction text generalizing state with
  | nil =>
      cases scanned
      exact ⟨rfl, id⟩
  | cons character rest inductionHypothesis =>
      rw [scan_cons, Option.bind_eq_some_iff] at scanned
      rcases scanned with ⟨next, stepped, later⟩
      have here := step_blank (blank character List.mem_cons_self) stepped
      have behind := inductionHypothesis
        (fun other member => blank other (List.mem_cons_of_mem _ member)) later
      exact ⟨behind.1.trans here.1, here.2 ∘ behind.2⟩

/-- Without the blanks around it a complete text is complete.  It may come to
end in a line comment, if the end of the comment was one of the blanks. -/
theorem IsComplete.trim {text : List Char} (complete : IsComplete text) :
    IsComplete (Text.trim text) := by
  rcases Text.exists_eq_trim text with
    ⟨before, behind, whole, blankBefore, blankBehind⟩
  rcases complete with ⟨mode, settled, scanned⟩
  have start : scan outside before = some outside :=
    scan_plain (fun character member =>
      not_mem_marks_of_isBlank (blankBefore character member)) []
  rw [whole, scan_append, start, Option.bind_some, scan_append,
    Option.bind_eq_some_iff] at scanned
  rcases scanned with ⟨⟨inner, brackets⟩, body, blanks⟩
  have kept := scan_blanks blankBehind blanks
  cases kept.1
  exact ⟨inner, kept.2 settled, body⟩

/-- A line comment goes on up to the end of its line. -/
theorem scan_lineComment {text : List Char}
    (sameLine : ∀ character ∈ text, character ∉ lineEnds)
    (brackets : List Bracket) :
    scan ⟨.lineComment, brackets⟩ text = some ⟨.lineComment, brackets⟩ := by
  induction text with
  | nil => rfl
  | cons character rest inductionHypothesis =>
      rw [scan_cons, step, if_neg (sameLine character List.mem_cons_self)]
      exact inductionHypothesis fun other member =>
        sameLine other (List.mem_cons_of_mem _ member)

end Templating.JavaScript

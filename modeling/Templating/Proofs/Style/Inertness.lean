import Templating.Proofs.Style.Rule

/-!
# Strings and parentheses in a rule

A declaration ends at its semicolon only if the semicolon is read as one, and
not as a part of a string or of something in parentheses.  Names, colons and
semicolons neither open nor close any of these, so what is open at the end of a
declaration is what the values up to there have left open.

Sanitizing checks the characters of a value and looks for denied pieces.  It
does not look at whether quotes and parentheses are paired, so a value may stay
as it is and leave a string open.
-/

namespace Templating

namespace Css

/-- Whether a string is open, and how many parentheses are. -/
structure State where
  quoted : Bool
  depth : Nat
  deriving DecidableEq, Repr

/-- In no string and in no parentheses. -/
def outside : State := ⟨false, 0⟩

/-- The characters that end a string. -/
def stringEnds : List Char := ['\x27', '\n', '\r', '\x0c']

/-- Reads one character.  There are no parentheses in a string, and one that
closes nothing is passed over. -/
def step (state : State) (character : Char) : State :=
  if state.quoted then
    { state with quoted := decide (character ∉ stringEnds) }
  else if character = '\x27' then
    { state with quoted := true }
  else if character = '(' then
    { state with depth := state.depth + 1 }
  else if character = ')' then
    { state with depth := state.depth - 1 }
  else
    state

/-- Reads a text. -/
def scan : State → List Char → State :=
  List.foldl step

/-- Every semicolon and every closing brace of the text is met outside of
strings and parentheses. -/
def EndsOutside (state : State) (text : List Char) : Prop :=
  ∀ front mark behind, text = front ++ mark :: behind →
    mark = ';' ∨ mark = '\x7d' → scan state front = outside

@[simp]
theorem scan_nil (state : State) : scan state [] = state := rfl

@[simp]
theorem scan_cons (state : State) (character : Char) (rest : List Char) :
    scan state (character :: rest) = scan (step state character) rest := rfl

theorem scan_append (state : State) (first second : List Char) :
    scan state (first ++ second) = scan (scan state first) second :=
  List.foldl_append

/-- Parentheses are not closed in strings, and only what ends a string closes
it. -/
theorem step_of_quoted {state : State} (quoted : state.quoted = true)
    {character : Char} (inner : character ∉ stringEnds) :
    step state character = state := by
  rw [step, if_pos quoted, decide_eq_true inner]
  cases state
  cases quoted
  rfl

/-- The characters that may change the state. -/
def marks : List Char := '(' :: ')' :: stringEnds

theorem step_of_not_mem {character : Char} (plain : character ∉ marks)
    (state : State) : step state character = state := by
  simp only [marks, List.mem_cons, not_or] at plain
  rcases plain with ⟨noOpening, noClosing, inner⟩
  cases quoted : state.quoted with
  | true => exact step_of_quoted quoted inner
  | false =>
      have noQuote : character ≠ '\x27' := by
        rintro rfl
        exact inner (by decide)
      rw [step, quoted, if_neg Bool.false_ne_true, if_neg noQuote,
        if_neg noOpening, if_neg noClosing]

/-- A text without marks leaves the state alone. -/
theorem scan_plain {text : List Char}
    (plain : ∀ character ∈ text, character ∉ marks) (state : State) :
    scan state text = state := by
  induction text with
  | nil => rfl
  | cons character rest inductionHypothesis =>
      rw [scan_cons, step_of_not_mem (plain character List.mem_cons_self)]
      exact inductionHypothesis fun other member =>
        plain other (List.mem_cons_of_mem _ member)

/-- An open string goes on up to the next character that ends it. -/
theorem scan_quoted {state : State} (quoted : state.quoted = true)
    {text : List Char} (inner : ∀ character ∈ text, character ∉ stringEnds) :
    scan state text = state := by
  induction text with
  | nil => rfl
  | cons character rest inductionHypothesis =>
      rw [scan_cons, step_of_quoted quoted (inner character List.mem_cons_self)]
      exact inductionHypothesis fun other member =>
        inner other (List.mem_cons_of_mem _ member)

theorem endsOutside_nil (state : State) : EndsOutside state [] := by
  intro front mark behind split
  exact absurd split (by simp)

theorem endsOutside_cons {state : State} {character : Char}
    {rest : List Char} :
    EndsOutside state (character :: rest) ↔
      (character = ';' ∨ character = '\x7d' → state = outside) ∧
        EndsOutside (step state character) rest := by
  constructor
  · intro ends
    refine ⟨ends [] character rest rfl, ?_⟩
    intro front mark behind split isEnd
    exact ends (character :: front) mark behind (by rw [split]; rfl) isEnd
  · rintro ⟨here, later⟩ front mark behind split isEnd
    cases front with
    | nil =>
        cases split
        exact here isEnd
    | cons first others =>
        cases split
        exact later others mark behind rfl isEnd

/-- A text that ends nothing is only passed. -/
theorem endsOutside_append {text : List Char} (noSemicolon : ';' ∉ text)
    (noBrace : '\x7d' ∉ text) (state : State) (rest : List Char) :
    EndsOutside state (text ++ rest) ↔ EndsOutside (scan state text) rest := by
  induction text generalizing state with
  | nil => rfl
  | cons character others inductionHypothesis =>
      simp only [List.mem_cons, not_or] at noSemicolon noBrace
      rw [List.cons_append, endsOutside_cons, scan_cons,
        inductionHypothesis noSemicolon.2 noBrace.2]
      refine and_iff_right ?_
      rintro (rfl | rfl)
      · exact absurd rfl noSemicolon.1
      · exact absurd rfl noBrace.1

end Css

namespace Style

open Css

/-- The declarations that a rule is made of. -/
def declarationsOf (pairs : List (String × String)) : String :=
  String.join (pairs.map fun pair => declaration pair.1 pair.2)

/-- The value that a declaration has after sanitizing. -/
def safeValue (pair : String × String) : List Char :=
  safePropertyValue (Text.trim pair.2.toList)

section Declaration

variable (pair : String × String)

/-- The part of a declaration before its semicolon. -/
def statedOf : List Char :=
  safePropertyName (Text.trim pair.1.toList) ++ ':' :: safeValue pair

theorem toList_declaration :
    (declaration pair.1 pair.2).toList = statedOf pair ++ [';'] :=
  String.toList_ofList

theorem not_mem_marks_of_isPropertyNameChar {character : Char}
    (accepted : isPropertyNameChar character = true) : character ∉ marks := by
  intro member
  simp only [marks, stringEnds, List.mem_cons, List.not_mem_nil, or_false]
    at member
  rcases member with rfl | rfl | rfl | rfl | rfl | rfl <;>
    exact absurd accepted (by decide)

/-- Only the value of a declaration opens or closes anything. -/
theorem scan_statedOf (state : State) :
    scan state (statedOf pair) = scan state (safeValue pair) := by
  have name : scan state (safePropertyName (Text.trim pair.1.toList)) = state :=
    scan_plain (fun _ member => not_mem_marks_of_isPropertyNameChar
      (isPropertyNameChar_of_mem (isPropertyName_safePropertyName _) member)) _
  rw [statedOf, scan_append, name, scan_cons, step_of_not_mem (by decide)]

theorem not_mem_statedOf {mark : Char} (isMark : isValueChar mark = false)
    (noColon : mark ≠ ':') : mark ∉ statedOf pair := by
  rw [← Bool.not_eq_true] at isMark
  intro member
  rcases List.mem_append.mp member with inName | inRest
  · exact isMark (isValueChar_of_isPropertyNameChar (isPropertyNameChar_of_mem
      (isPropertyName_safePropertyName _) inName))
  · rcases List.mem_cons.mp inRest with same | inValue
    · exact noColon same
    · exact isMark (isValueChar_of_mem (isPropertyValue_safePropertyValue _)
        inValue)

end Declaration

theorem toList_declarationsOf_cons (pair : String × String)
    (rest : List (String × String)) :
    (declarationsOf (pair :: rest)).toList =
      statedOf pair ++ ';' :: (declarationsOf rest).toList := by
  rw [declarationsOf, List.map_cons, String.join_cons, String.toList_append,
    toList_declaration, List.append_assoc]
  rfl

/-- The values alone decide what is open behind some declarations. -/
theorem scan_declarationsOf (state : State) (pairs : List (String × String)) :
    scan state (declarationsOf pairs).toList =
      scan state (pairs.flatMap safeValue) := by
  induction pairs generalizing state with
  | nil => rfl
  | cons pair rest inductionHypothesis =>
      rw [toList_declarationsOf_cons, scan_append, scan_statedOf, scan_cons,
        step_of_not_mem (by decide), inductionHypothesis, List.flatMap_cons,
        scan_append]

/-- If nothing is open at the first end, each value has to close what it
opens. -/
theorem endsOutside_declarationsOf (pairs : List (String × String)) :
    EndsOutside outside ((declarationsOf pairs).toList ++ ['\x7d']) ↔
      ∀ pair ∈ pairs, scan outside (safeValue pair) = outside := by
  induction pairs with
  | nil =>
      have closed : EndsOutside outside ['\x7d'] :=
        endsOutside_cons.mpr ⟨fun _ => rfl, endsOutside_nil _⟩
      exact iff_of_true closed fun pair member => absurd member List.not_mem_nil
  | cons pair rest inductionHypothesis =>
      have noSemicolon : ';' ∉ statedOf pair :=
        not_mem_statedOf pair (by decide) (by decide)
      have noBrace : '\x7d' ∉ statedOf pair :=
        not_mem_statedOf pair (by decide) (by decide)
      rw [toList_declarationsOf_cons, List.append_assoc,
        endsOutside_append noSemicolon noBrace, scan_statedOf, List.cons_append,
        endsOutside_cons, step_of_not_mem (by decide), List.forall_mem_cons]
      constructor
      · rintro ⟨here, later⟩
        rw [here (.inl rfl)] at later
        exact ⟨here (.inl rfl), inductionHypothesis.mp later⟩
      · rintro ⟨here, later⟩
        rw [here]
        exact ⟨fun _ => rfl, inductionHypothesis.mpr later⟩

/-- The ends of a rule made of sanitized declarations, those of its declarations
and its own, are met outside of strings and parentheses if and only if every
sanitized value closes what it opens.  A value that leaves a string open takes
in all declarations behind it, and the end of the rule, up to the next value
with a quote or a line end. -/
theorem rule_inert_iff (name : String) (pairs : List (String × String)) :
    let styled := StyledClass.ofDeclarations name (declarationsOf pairs)
    let body := (declarationsOf pairs).toList
    styled.rule.toList =
        '.' :: styled.id.toList ++ '\x7b' :: body ++ ['\x7d'] ∧
      (EndsOutside outside (body ++ ['\x7d']) ↔
        ∀ pair ∈ pairs, scan outside (safeValue pair) = outside) ∧
      ∀ before later, pairs = before ++ later →
        (scan outside (before.flatMap safeValue)).quoted = true →
        (∀ pair ∈ later, ∀ character ∈ safeValue pair,
          character ∉ stringEnds) →
        (scan outside body).quoted = true := by
  refine ⟨?_, endsOutside_declarationsOf pairs, ?_⟩
  · simp [StyledClass.ofDeclarations]
  · rintro before later rfl quoted inner
    have kept : scan (scan outside (before.flatMap safeValue))
        (later.flatMap safeValue) = scan outside (before.flatMap safeValue) := by
      apply scan_quoted quoted
      intro character member
      rcases List.mem_flatMap.mp member with ⟨pair, isLater, inValue⟩
      exact inner pair isLater character inValue
    rw [scan_declarationsOf, List.flatMap_append, scan_append, kept]
    exact quoted

/-- A quote and a parenthesis without their partners are accepted values. -/
theorem hostile_declarations_not_inert :
    declarationsOf [("content", "\x27"), ("color", "red")] =
        "content:\x27;color:red;" ∧
      ¬EndsOutside outside
        ((declarationsOf [("content", "\x27"), ("color", "red")]).toList ++
          ['\x7d']) ∧
      (scan outside (declarationsOf
        [("content", "\x27"), ("color", "red")]).toList).quoted = true ∧
      ¬EndsOutside outside
        ((declarationsOf [("width", "calc(1px"), ("color", "red")]).toList ++
          ['\x7d']) := by
  have string := rule_inert_iff "box" [("content", "\x27"), ("color", "red")]
  have parenthesis := rule_inert_iff "box"
    [("width", "calc(1px"), ("color", "red")]
  refine ⟨by decide, ?_, ?_, ?_⟩
  · rw [string.2.1]
    intro closed
    exact absurd (closed ("content", "\x27") List.mem_cons_self) (by decide)
  · refine string.2.2 [("content", "\x27")] [("color", "red")] rfl
      (by decide) ?_
    intro pair member
    rw [List.mem_singleton.mp member]
    have value : safeValue ("color", "red") = ['r', 'e', 'd'] := by decide
    rw [value]
    simp [stringEnds]
  · rw [parenthesis.2.1]
    intro closed
    exact absurd (closed ("width", "calc(1px") List.mem_cons_self) (by decide)

end Style

end Templating

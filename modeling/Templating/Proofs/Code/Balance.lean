import Templating.Proofs.Code.Acceptance
import Templating.Proofs.Code.Brackets

/-!
# Balance of generated code

Brackets close in the order in which they open, and every line starts with four
spaces for each brace that is open there.  A line that starts with a closing
brace stands one step further out, as that brace ends the block.

Texts put one after the other are balanced if each of them is, from the brackets
that the one before has left open.  So it is enough to look at single lines: a
statement opens a block, fills and closes it, and the other lines close what
they open.
-/

namespace Templating.Code

/-! ## Balanced texts -/

/-- If the text has a last symbol at all, that is a written end of line. -/
def EndsLine (text : List Symbol) : Prop :=
  ∀ last ∈ text.getLast?, last = .written '\n'

/-- What starts here starts with as much indentation as the open brackets
ask for. -/
def Indented (opened : List Bracket) (text : List Symbol) : Prop :=
  ∃ depth first rest,
    text = List.replicate (4 * depth) (.written ' ') ++ first :: rest ∧
      first ≠ .written ' ' ∧ first ≠ .written '\n' ∧
      braces opened = depth + if first = .written '\x7d' then 1 else 0

/-- The text leads from open brackets to open brackets, and its lines are
indented or empty. -/
structure Balanced (opened after : List Bracket) (text : List Symbol) :
    Prop where
  reads : read opened text = some after
  indented : ∀ before first rest, text = before ++ first :: rest →
    EndsLine before → first = .written '\n' ∨
      ∃ between, read opened before = some between ∧
        Indented between (first :: rest)

theorem Indented.append {opened : List Bracket} {text : List Symbol}
    (indented : Indented opened text) (more : List Symbol) :
    Indented opened (text ++ more) := by
  rcases indented with ⟨depth, first, rest, rfl, noSpace, noEnd, level⟩
  refine ⟨depth, first, rest ++ more, ?_, noSpace, noEnd, level⟩
  rw [List.append_assoc, List.cons_append]

theorem EndsLine.of_append {first second : List Symbol}
    (ends : EndsLine (first ++ second)) : EndsLine second := by
  intro last isLast
  apply ends
  rw [List.getLast?_append, isLast]
  rfl

section Balanced

variable {opened between after : List Bracket} {first second : List Symbol}

theorem balanced_nil (opened : List Bracket) : Balanced opened opened [] where
  reads := rfl
  indented before first rest same _ := by
    cases (List.append_eq_nil_iff.mp same.symm).2

theorem Balanced.append (balanced : Balanced opened between first)
    (others : Balanced between after second) :
    Balanced opened after (first ++ second) where
  reads := by
    rw [read_append, balanced.reads]
    exact others.reads
  indented before start rest same ends := by
    rcases List.append_eq_append_iff.mp same with
      ⟨later, rfl, isSecond⟩ | ⟨later, rfl, isRest⟩
    · rcases others.indented later start rest isSecond ends.of_append with
        blank | ⟨reached, readsLater, indented⟩
      · exact .inl blank
      · refine .inr ⟨reached, ?_, indented⟩
        rw [read_append, balanced.reads]
        exact readsLater
    · cases later with
      | nil =>
          -- The line starts with the second text.
          rw [List.append_nil] at balanced
          rcases others.indented [] start rest isRest.symm (by simp [EndsLine])
            with blank | ⟨reached, readsNothing, indented⟩
          · exact .inl blank
          · cases readsNothing
            exact .inr ⟨between, balanced.reads, indented⟩
      | cons head more =>
          rcases List.cons.inj isRest with ⟨rfl, rfl⟩
          rcases balanced.indented before start more rfl ends with
            blank | ⟨reached, readsBefore, indented⟩
          · exact .inl blank
          · exact .inr ⟨reached, readsBefore, indented.append second⟩

end Balanced

/-! ## Balanced lines -/

/-- The symbols of lines in order. -/
def codeSymbols (entries : List Entry) : List Symbol :=
  symbols (entries.flatMap Entry.content)

theorem codeSymbols_append (first second : List Entry) :
    codeSymbols (first ++ second) = codeSymbols first ++ codeSymbols second := by
  rw [codeSymbols, List.flatMap_append, symbols_append]
  rfl

theorem codeSymbols_of (depth : Nat) (fragments : List Fragment) :
    codeSymbols [.of depth fragments] =
      List.replicate (4 * depth) (.written ' ') ++ symbols fragments ++
        [.written '\n'] := by
  have indentation : symbols (List.replicate depth (.words indentUnit)) =
      List.replicate (4 * depth) (.written ' ') := by
    induction depth with
    | zero => rfl
    | succ depth inductionHypothesis =>
        rw [List.replicate_succ, symbols_cons, inductionHypothesis,
          Nat.mul_succ, Nat.add_comm, List.replicate_add]
        rfl
  show symbols ((List.replicate depth (.words indentUnit) ++ fragments ++
    [.words "\n"]) ++ []) = _
  rw [List.append_nil, symbols_append, symbols_append, indentation]
  rfl

/-- The lines lead from open brackets to open brackets, each of them
indented. -/
def BalancedLines (opened after : List Bracket) (entries : List Entry) : Prop :=
  Balanced opened after (codeSymbols entries)

section BalancedLines

variable {opened between after : List Bracket} {depth : Nat}
  {fragments : List Fragment} {entry : Entry} {first second : List Entry}

theorem BalancedLines.append (balanced : BalancedLines opened between first)
    (others : BalancedLines between after second) :
    BalancedLines opened after (first ++ second) := by
  rw [BalancedLines, codeSymbols_append]
  exact Balanced.append balanced others

theorem BalancedLines.cons (balanced : BalancedLines opened between [entry])
    (others : BalancedLines between after second) :
    BalancedLines opened after (entry :: second) :=
  balanced.append others

theorem balancedLines_nil (opened : List Bracket) :
    BalancedLines opened opened [] :=
  balanced_nil opened

theorem balancedLines_flatMap {α : Type} {lines : α → List Entry}
    (balanced : ∀ item, BalancedLines opened opened (lines item))
    (items : List α) : BalancedLines opened opened (items.flatMap lines) := by
  induction items with
  | nil => exact balancedLines_nil opened
  | cons item rest inductionHypothesis =>
      exact (balanced item).append inductionHypothesis

theorem balancedLines_blank (opened : List Bracket) :
    BalancedLines opened opened [.line .blank] where
  reads := rfl
  indented before start rest same _ := by
    left
    rcases List.singleton_eq_append_iff.mp same with ⟨rfl, isLast⟩ | ⟨_, none⟩
    · cases isLast
      rfl
    · cases none

/-- Inside of a line nothing ends. -/
theorem eq_nil_of_endsLine {line before rest : List Symbol} {start : Symbol}
    (oneLine : .written '\n' ∉ line)
    (same : line ++ [.written '\n'] = before ++ start :: rest)
    (ends : EndsLine before) : before = [] := by
  rcases List.eq_nil_or_concat' before with rfl | ⟨earlier, last, rfl⟩
  · rfl
  · have isEnd : last = .written '\n' := ends last (by simp)
    have inLine : line = earlier ++ [last] ++ (start :: rest).dropLast := by
      have shorter := congrArg List.dropLast same
      rwa [List.dropLast_concat,
        List.dropLast_append_of_ne_nil (List.cons_ne_nil _ _)] at shorter
    apply absurd _ oneLine
    rw [inLine, isEnd]
    simp

/-- A line is balanced if its first symbol stands at the right depth and its
marks read well. -/
theorem balancedLines_of (start : Symbol)
    (starts : (symbols fragments).head? = some start)
    (visible : start ≠ .written ' ' ∧ start ≠ .written '\n')
    (level : braces opened = depth + if start = .written '\x7d' then 1 else 0)
    (reads : (lineMarks fragments).foldlM readCharacter opened = some after)
    (oneLine : '\n' ∉ lineMarks fragments) :
    BalancedLines opened after [.of depth fragments] := by
  have spaces (count : Nat) :
      read opened (List.replicate count (.written ' ')) = some opened := by
    induction count with
    | zero => rfl
    | succ count inductionHypothesis => exact inductionHypothesis
  have whole : .written '\n' ∉
      List.replicate (4 * depth) (.written ' ') ++ symbols fragments := by
    rw [List.mem_append, List.mem_replicate]
    rintro (⟨_, isSpace⟩ | inFragments)
    · cases isSpace
    · exact oneLine (mem_lineMarks_of_mem_symbols rfl inFragments)
  rw [BalancedLines, codeSymbols_of]
  constructor
  · rw [read_append, read_append, spaces, Option.bind_some, read_symbols, reads]
    rfl
  · intro before first rest same ends
    cases eq_nil_of_endsLine whole same ends
    rcases List.head?_eq_some_iff.mp starts with ⟨more, isStart⟩
    refine .inr ⟨opened, rfl, depth, start, more ++ [.written '\n'], ?_,
      visible.1, visible.2, level⟩
    rw [List.nil_append] at same
    rw [← same, isStart, List.append_assoc]
    rfl

/-- What a line that closes no block may start with. -/
def Symbol.opensLine : Symbol → Bool
  | .written character => !([' ', '\n', '\x7d'].contains character)
  | .taken _ => true

/-- The marks close what they open, on one line. -/
structure Closes (marked : List Char) : Prop where
  reads : ∀ opened, marked.foldlM readCharacter opened = some opened
  oneLine : '\n' ∉ marked

theorem closes_nil : Closes [] := ⟨fun _ => rfl, List.not_mem_nil⟩

section Closes

variable {marked more : List Char}

theorem Closes.append (closes : Closes marked) (others : Closes more) :
    Closes (marked ++ more) := by
  constructor
  · intro opened
    rw [List.foldlM_append, closes.reads]
    exact others.reads opened
  · rw [List.mem_append, not_or]
    exact ⟨closes.oneLine, others.oneLine⟩

/-- Marks within a pair of brackets. -/
theorem Closes.within {left right : Char} {bracket : Bracket}
    (closes : Closes marked)
    (opens : ∀ opened, readCharacter opened left = some (bracket :: opened))
    (ends : ∀ opened, readCharacter (bracket :: opened) right = some opened)
    (oneLine : '\n' ∉ [left, right]) : Closes (left :: marked ++ [right]) := by
  constructor
  · intro opened
    rw [List.foldlM_append, List.foldlM_cons, opens, Option.bind_eq_bind,
      Option.bind_some, closes.reads, Option.bind_some, List.foldlM_cons, ends]
    rfl
  · simp only [List.mem_cons, List.not_mem_nil, or_false, not_or] at oneLine
    simp only [List.mem_append, List.mem_cons, List.not_mem_nil, or_false,
      not_or]
    exact ⟨⟨oneLine.1, closes.oneLine⟩, oneLine.2⟩

theorem Closes.round (closes : Closes marked) :
    Closes ('(' :: marked ++ [')']) :=
  closes.within (fun _ => rfl) (fun _ => rfl) (by decide)

theorem Closes.square (closes : Closes marked) :
    Closes ('[' :: marked ++ [']']) :=
  closes.within (fun _ => rfl) (fun _ => rfl) (by decide)

/-- The marks of a call without brackets in its arguments. -/
theorem closes_call : Closes ['(', ')'] := closes_nil.round

end Closes

theorem Symbol.visible_of_opensLine {start : Symbol}
    (opensLine : start.opensLine = true) :
    (start ≠ .written ' ' ∧ start ≠ .written '\n') ∧
      start ≠ .written '\x7d' := by
  refine ⟨⟨?_, ?_⟩, ?_⟩
  all_goals
    rintro rfl
    cases opensLine

/-- A line that closes all that it opens. -/
theorem balancedLines_closed (marked : List Char) (start : Symbol)
    (isMarked : lineMarks fragments = marked)
    (starts : (symbols fragments).head? = some start)
    (opensLine : start.opensLine = true) (closes : Closes marked)
    (level : braces opened = depth) :
    BalancedLines opened opened [.of depth fragments] := by
  rcases Symbol.visible_of_opensLine opensLine with ⟨visible, noBrace⟩
  subst isMarked
  refine balancedLines_of start starts visible ?_ (closes.reads opened)
    closes.oneLine
  rw [if_neg noBrace]
  exact level

/-- A line that opens a block and closes all else. -/
theorem balancedLines_opening (marked : List Char) (start : Symbol)
    (isMarked : lineMarks fragments = marked ++ ['\x7b'])
    (starts : (symbols fragments).head? = some start)
    (opensLine : start.opensLine = true) (closes : Closes marked)
    (level : braces opened = depth) :
    BalancedLines opened (.curly :: opened) [.of depth fragments] := by
  rcases Symbol.visible_of_opensLine opensLine with ⟨visible, noBrace⟩
  refine balancedLines_of start starts visible ?_ ?_ ?_
  · rw [if_neg noBrace]
    exact level
  · rw [isMarked, List.foldlM_append, closes.reads]
    rfl
  · rw [isMarked, List.mem_append, not_or]
    exact ⟨closes.oneLine, by decide⟩

/-- The line that closes a block. -/
theorem balancedLines_closing (level : braces opened = depth) :
    BalancedLines (.curly :: opened) opened [.plain depth closingLine] := by
  refine balancedLines_of (.written '\x7d') rfl (by decide) ?_ rfl (by decide)
  rw [braces_curly, level]
  rfl

end BalancedLines

end Templating.Code

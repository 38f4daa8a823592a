import Templating.Proofs.Code.Printing
import Templating.Proofs.Text.Piece

/-!
# Brackets of generated code

Generated code is read symbol by symbol.  The generator's own words are read
character by character; a literal or a text that was taken over is a single
symbol, so brackets and line ends inside of it are not read.  Reading keeps the
brackets that are open, and fails at a bracket that closes something else than
the innermost of them.

Most characters of the generator's words leave the open brackets alone.  What a
line does to them follows from the few that are marks.
-/

namespace Templating.Code

/-! ## Symbols -/

/-- What is read of generated code at once. -/
inductive Symbol where
  /-- A character of the generator's own words. -/
  | written (character : Char)
  /-- A literal, or a text that was given to the generator. -/
  | taken (text : String)
  deriving DecidableEq, Repr

def Symbol.characters : Symbol → List Char
  | .written character => [character]
  | .taken text => text.toList

def Fragment.symbols : Fragment → List Symbol
  | .words text => text.toList.map .written
  | fragment => [.taken fragment.text]

/-- The symbols of fragments in order. -/
def symbols (fragments : List Fragment) : List Symbol :=
  fragments.flatMap Fragment.symbols

@[simp]
theorem symbols_append (first second : List Fragment) :
    symbols (first ++ second) = symbols first ++ symbols second :=
  List.flatMap_append

theorem symbols_cons (fragment : Fragment) (rest : List Fragment) :
    symbols (fragment :: rest) = fragment.symbols ++ symbols rest :=
  List.flatMap_cons

theorem characters_symbols (fragment : Fragment) :
    fragment.symbols.flatMap Symbol.characters = fragment.text.toList := by
  cases fragment with
  | words text =>
      rw [Fragment.symbols, List.flatMap_map]
      exact List.flatMap_singleton' text.toList
  | quoted text => exact List.append_nil _
  | copied expression => exact List.append_nil _
  | verbatim text => exact List.append_nil _

/-- Code is what its symbols are written as. -/
theorem toList_fragmentsText (fragments : List Fragment) :
    (fragmentsText fragments).toList =
      (symbols fragments).flatMap Symbol.characters := by
  induction fragments with
  | nil => rfl
  | cons fragment rest inductionHypothesis =>
      rw [fragmentsText_cons, String.toList_append, inductionHypothesis,
        symbols_cons, List.flatMap_append, characters_symbols]

/-! ## Reading -/

inductive Bracket where
  | round
  | square
  | curly
  deriving DecidableEq, Repr

/-- Closes the innermost bracket, if it is one of this kind. -/
def Bracket.close (bracket : Bracket) : List Bracket → Option (List Bracket)
  | [] => none
  | innermost :: outer => if innermost = bracket then some outer else none

/-- The open brackets behind a character, innermost first. -/
def readCharacter (opened : List Bracket) (character : Char) :
    Option (List Bracket) :=
  match character with
  | '(' => some (.round :: opened)
  | '[' => some (.square :: opened)
  | '\x7b' => some (.curly :: opened)
  | ')' => Bracket.round.close opened
  | ']' => Bracket.square.close opened
  | '\x7d' => Bracket.curly.close opened
  | _ => some opened

def readSymbol (opened : List Bracket) : Symbol → Option (List Bracket)
  | .written character => readCharacter opened character
  | .taken _ => some opened

/-- The open brackets behind a text. -/
def read : List Bracket → List Symbol → Option (List Bracket) :=
  List.foldlM readSymbol

theorem read_append (opened : List Bracket) (first second : List Symbol) :
    read opened (first ++ second) =
      (read opened first).bind fun between => read between second :=
  List.foldlM_append

/-- How many of the open brackets are braces. -/
def braces (opened : List Bracket) : Nat :=
  opened.count .curly

theorem braces_curly (opened : List Bracket) :
    braces (.curly :: opened) = braces opened + 1 :=
  List.count_cons_self

/-! ## Marks -/

/-- The characters of which a line may have only some: brackets, and the end of
the line. -/
def isMark (character : Char) : Bool :=
  ['(', ')', '[', ']', '\x7b', '\x7d', '\n'].contains character

/-- The marks among the generator's words. -/
def lineMarks (fragments : List Fragment) : List Char :=
  fragments.flatMap fun
    | .words text => text.toList.filter isMark
    | _ => []

theorem lineMarks_append (first second : List Fragment) :
    lineMarks (first ++ second) = lineMarks first ++ lineMarks second :=
  List.flatMap_append

theorem readCharacter_of_not_isMark {character : Char}
    (noMark : isMark character = false) (opened : List Bracket) :
    readCharacter opened character = some opened := by
  unfold readCharacter
  split
  case h_7 => rfl
  all_goals exact absurd noMark (by decide)

theorem read_written (opened : List Bracket) (text : List Char) :
    read opened (text.map .written) =
      (text.filter isMark).foldlM readCharacter opened := by
  induction text generalizing opened with
  | nil => rfl
  | cons character rest inductionHypothesis =>
      rw [List.map_cons, read, List.foldlM_cons, readSymbol]
      cases mark : isMark character with
      | false =>
          rw [readCharacter_of_not_isMark mark,
            List.filter_cons_of_neg (Bool.eq_false_iff.mp mark)]
          exact inductionHypothesis opened
      | true =>
          rw [List.filter_cons_of_pos mark, List.foldlM_cons]
          congr 1
          funext between
          exact inductionHypothesis between

/-- What a text does to the open brackets is what its marks do. -/
theorem read_symbols (opened : List Bracket) (fragments : List Fragment) :
    read opened (symbols fragments) =
      (lineMarks fragments).foldlM readCharacter opened := by
  induction fragments generalizing opened with
  | nil => rfl
  | cons fragment rest inductionHypothesis =>
      rw [symbols_cons, read_append, lineMarks, List.flatMap_cons,
        List.foldlM_append]
      cases fragment with
      | words text =>
          rw [Fragment.symbols, read_written]
          congr 1
          funext between
          exact inductionHypothesis between
      | quoted text => exact inductionHypothesis opened
      | copied expression => exact inductionHypothesis opened
      | verbatim text => exact inductionHypothesis opened

theorem mem_lineMarks_of_mem_symbols {fragments : List Fragment} {mark : Char}
    (marked : isMark mark = true)
    (member : .written mark ∈ symbols fragments) :
    mark ∈ lineMarks fragments := by
  rcases List.mem_flatMap.mp member with ⟨fragment, isFragment, inFragment⟩
  apply List.mem_flatMap.mpr
  refine ⟨fragment, isFragment, ?_⟩
  cases fragment with
  | words text =>
      rw [Fragment.symbols, List.mem_map] at inFragment
      rcases inFragment with ⟨character, inText, same⟩
      cases same
      exact List.mem_filter.mpr ⟨inText, marked⟩
  | quoted text => cases List.mem_singleton.mp inFragment
  | copied expression => cases List.mem_singleton.mp inFragment
  | verbatim text => cases List.mem_singleton.mp inFragment

/-! ### Names of temporaries -/

theorem isMark_of_isAlphanum {character : Char}
    (alphanum : character.isAlphanum = true) : isMark character = false := by
  rw [← Bool.not_eq_true]
  intro mark
  rw [isMark, List.contains_iff_mem] at mark
  have noLetters : ∀ mark ∈ ['(', ')', '[', ']', '\x7b', '\x7d', '\n'],
      mark.isAlphanum = false :=
    List.forall_iff_forall_mem.mp (by decide)
  rw [noLetters character mark] at alphanum
  cases alphanum

theorem filter_isMark_name (temporary : Temporary) :
    temporary.name.toList.filter isMark = [] := by
  have start : ∀ character ∈ "var_".toList, ¬isMark character = true :=
    List.forall_iff_forall_mem.mp (by decide)
  rw [List.filter_eq_nil_iff]
  intro character member
  rw [Temporary.name, String.toList_append, List.mem_append,
    Nat.toString_eq_repr, Nat.toList_repr] at member
  rcases member with inStart | isDigit
  · exact start character inStart
  · rw [Bool.not_eq_true]
    apply isMark_of_isAlphanum
    rw [Char.isAlphanum,
      Nat.isDigit_of_mem_toDigits (by decide) (by decide) isDigit, Bool.or_true]

theorem filter_isMark_references (sources : List Temporary) :
    (references sources).toList.filter isMark = [] := by
  have separator : ∀ character ∈ ", ".toList, ¬isMark character = true :=
    List.forall_iff_forall_mem.mp (by decide)
  have reference : "&".toList.filter isMark = [] := by decide
  rw [List.filter_eq_nil_iff]
  intro character member
  rw [references, String.toList_intercalate, List.map_map] at member
  rcases Text.mem_intercalate member with separates | ⟨text, isText, inText⟩
  · exact separator character separates
  · rcases List.mem_map.mp isText with ⟨source, _, rfl⟩
    have plain : ("&" ++ source.name).toList.filter isMark = [] := by
      rw [String.toList_append, List.filter_append, reference,
        filter_isMark_name]
      rfl
    exact List.filter_eq_nil_iff.mp plain character inText

end Templating.Code

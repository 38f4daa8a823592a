import Mathlib.Data.List.Infix
import Templating.Parameters
import Templating.Proofs.Text.Piece

/-!
# Written parameter lists

A parameter is written as a name, with a mark of mutability in front of it and a
type behind it where it has them, and with blanks around every piece.  A type may
hold brackets of all kinds, nested to any depth, and colons and commas between
them; all it has to keep is that its brackets are closed and that its commas
stand inside of brackets.

The names are read off such a list in their order.  Within the whole list the
depth of the brackets is zero outside of the types, and within one parameter it
is zero up to the colon, so the two scans cut at the marks that were written
between the pieces and at no others.
-/

namespace Templating.Parameters

/-! ## Brackets -/

def openings : List Char := ['(', '[', '\x7b', '<']

def closings : List Char := [')', ']', '\x7d', '>']

/-- What a character adds to the bracket depth, given the character before it.
The angle of an arrow adds nothing. -/
def depthChange (previous current : Char) : Int :=
  if current ∈ openings then
    1
  else if current ∈ closings ∧ ¬(current = '>' ∧ previous = '-') then
    -1
  else
    0

/-- The brackets that a text opens and does not close, given the character
before it. -/
def depth (previous : Char) : List Char → Int
  | [] => 0
  | current :: rest => depthChange previous current + depth current rest

/-- The text is one of a type behind its colon: it closes no bracket that it did
not open, closes all that it opened, and has its commas inside of brackets. -/
structure IsType (text : List Char) : Prop where
  nonnegative : ∀ part, part <+: text → 0 ≤ depth ':' part
  closed : depth ':' text = 0
  comma : ∀ part, part ++ [','] <+: text → 0 < depth ':' part

theorem isType_iff {text : List Char} :
    IsType text ↔ depth ':' text = 0 ∧ ∀ part ∈ text.inits,
      0 ≤ depth ':' part ∧ (part ++ [','] ∈ text.inits → 0 < depth ':' part) := by
  simp only [List.mem_inits]
  constructor
  · intro isType
    exact ⟨isType.closed, fun part isPart =>
      ⟨isType.nonnegative part isPart, isType.comma part⟩⟩
  · rintro ⟨closed, along⟩
    refine ⟨fun part isPart => (along part isPart).1, closed, ?_⟩
    intro part isPart
    exact (along part ((List.prefix_append part _).trans isPart)).2 isPart

instance (text : List Char) : Decidable (IsType text) :=
  decidable_of_iff _ isType_iff.symm

/-! ## Parameters -/

/-- A text of blanks, which may be empty. -/
abbrev Blanks :=
  {text : List Char // ∀ character ∈ text, Text.isBlank character = true}

/-- The name that a parameter binds. -/
structure Name where
  text : List Char
  nonempty : text ≠ []
  starts : ∀ first ∈ text.head?, Text.isBlank first = false
  ends : ∀ last ∈ text.getLast?, Text.isBlank last = false
  plain : ∀ character ∈ text,
    character ∉ openings ∧ character ∉ closings ∧ character ≠ ',' ∧
      character ≠ ':'
  unmarked : ¬"mut ".toList <+: text

/-- A parameter with everything that is written of it. -/
structure Parameter where
  before : Blanks
  /-- The blanks behind the mark of mutability, if there is one. -/
  mutability : Option Blanks
  name : Name
  behind : Blanks
  /-- The type with the blanks around it, if there is one. -/
  type : Option {text : List Char // IsType text}

namespace Parameter

/-- The mark of mutability. -/
def mark (parameter : Parameter) : List Char :=
  match parameter.mutability with
  | none => []
  | some blanks => "mut ".toList ++ blanks.val

/-- All that stands in front of the type. -/
def binding (parameter : Parameter) : List Char :=
  parameter.before.val ++ (parameter.mark ++ parameter.name.text) ++
    parameter.behind.val

/-- The parameter as it is written. -/
def written (parameter : Parameter) : List Char :=
  match parameter.type with
  | none => parameter.binding
  | some type => parameter.binding ++ ':' :: type.val

end Parameter

/-- The parameters as they are written, separated by commas.  A last comma may
follow, with blanks behind it. -/
def writtenList (parameters : List Parameter) (trailing : Option Blanks) :
    List Char :=
  [','].intercalate (parameters.map Parameter.written) ++
    match trailing with
    | none => []
    | some blanks => ',' :: blanks.val

/-! ## Scanning -/

/-- Where a scan stands: the bracket depth and the character passed last. -/
abbrev Place := Nat × Char

namespace Place

def next (place : Place) (current : Char) : Place :=
  (depthAfter place.1 place.2 current, current)

/-- The place behind a text. -/
def behind (place : Place) (text : List Char) : Place :=
  text.foldl next place

theorem behind_append (place : Place) (first second : List Char) :
    place.behind (first ++ second) = (place.behind first).behind second :=
  List.foldl_append

/-- No separator in the text is met outside of brackets. -/
def Passes (separator : Char) : Place → List Char → Prop
  | _, [] => True
  | place, current :: rest =>
      (current = separator → place.1 ≠ 0) ∧
        Passes separator (place.next current) rest

theorem Passes.append {separator : Char} {place : Place}
    {first second : List Char} (early : Passes separator place first)
    (late : Passes separator (place.behind first) second) :
    Passes separator place (first ++ second) := by
  induction first generalizing place with
  | nil => exact late
  | cons current rest inductionHypothesis =>
      exact ⟨early.1, inductionHypothesis early.2 late⟩

end Place

open Place

/-- What a scan passes belongs to the first part. -/
theorem splitFrom_append {separator : Char} {place : Place} {text : List Char}
    (passes : Passes separator place text) (rest : List Char) :
    splitFrom separator place.1 place.2 (text ++ rest) =
      (splitFrom separator (place.behind text).1 (place.behind text).2
        rest).modifyHead (text ++ ·) := by
  induction text generalizing place with
  | nil =>
      cases parts : splitFrom separator place.1 place.2 rest with
      | nil => simp [behind, parts]
      | cons part others => simp [behind, parts]
  | cons current text inductionHypothesis =>
      have step := inductionHypothesis passes.2
      have notHere : (current = separator && place.1 = 0) = false := by
        have := passes.1
        simpa using this
      rw [List.cons_append, splitFrom, notHere, if_neg Bool.false_ne_true]
      simp only [next] at step
      rw [step, List.modifyHead_modifyHead]
      rfl

/-- The last part reaches to the end. -/
theorem splitFrom_of_passes {separator : Char} {place : Place}
    {text : List Char} (passes : Passes separator place text) :
    splitFrom separator place.1 place.2 text = [text] := by
  have whole := splitFrom_append passes []
  rw [List.append_nil] at whole
  rw [whole, splitFrom, List.modifyHead_cons, List.append_nil]

/-- A separator outside of brackets ends a part. -/
theorem splitFrom_append_cons {separator : Char} {place : Place}
    {text : List Char} (passes : Passes separator place text)
    (outside : (place.behind text).1 = 0) (rest : List Char) :
    splitFrom separator place.1 place.2 (text ++ separator :: rest) =
      text :: splitFrom separator 0 separator rest := by
  rw [splitFrom_append passes, splitFrom, outside]
  simp

/-! ## What a scan passes -/

/-- A scan counts the depth, as long as no bracket is closed too early. -/
theorem depthAfter_eq {count : Nat} {previous current : Char}
    (nonnegative : 0 ≤ count + depthChange previous current) :
    (depthAfter count previous current : Int) =
      count + depthChange previous current := by
  unfold depthAfter
  unfold depthChange openings closings at nonnegative ⊢
  simp only [List.contains_iff_mem, Bool.and_eq_true, decide_eq_true_eq]
  by_cases opens : current ∈ ['(', '[', '\x7b', '<']
  · rw [if_pos opens, if_pos opens]
    exact Int.natCast_succ count
  rw [if_neg opens] at nonnegative ⊢
  rw [if_neg opens]
  by_cases arrow : current = '>' ∧ previous = '-'
  · have noClosing (closes : current ∈ [')', ']', '\x7d', '>'] ∧
        ¬(current = '>' ∧ previous = '-')) : False := closes.2 arrow
    rw [if_pos arrow, if_neg noClosing, Int.add_zero]
  rw [if_neg arrow]
  simp only [arrow, not_false_eq_true, and_true] at nonnegative ⊢
  split_ifs at nonnegative ⊢
  · omega
  · omega

/-- The commas of a text are passed if they stand inside of brackets, counted
from the brackets that are open in front of the text. -/
theorem passes_of_depth {place : Place} {text : List Char}
    (nonnegative : ∀ part, part <+: text → 0 ≤ place.1 + depth place.2 part)
    (comma : ∀ part, part ++ [','] <+: text →
      0 < place.1 + depth place.2 part) :
    Passes ',' place text ∧
      ((place.behind text).1 : Int) = place.1 + depth place.2 text := by
  induction text generalizing place with
  | nil => exact ⟨trivial, (Int.add_zero _).symm⟩
  | cons current rest inductionHypothesis =>
      have along (part : List Char) : depth place.2 (current :: part) =
          depthChange place.2 current + depth current part := rfl
      have here : ((place.next current).1 : Int) =
          place.1 + depthChange place.2 current := by
        apply depthAfter_eq
        have first := nonnegative [current] (by simp)
        rw [along, depth, Int.add_zero] at first
        exact first
      have later : Passes ',' (place.next current) rest ∧
          (((place.next current).behind rest).1 : Int) =
            (place.next current).1 + depth current rest := by
        apply inductionHypothesis
        · intro part isPart
          have bound := nonnegative (current :: part)
            (List.cons_prefix_cons.mpr ⟨rfl, isPart⟩)
          rw [along] at bound
          rw [here]
          show 0 ≤ place.1 + depthChange place.2 current + depth current part
          omega
        · intro part isPart
          have bound := comma (current :: part)
            (List.cons_prefix_cons.mpr ⟨rfl, isPart⟩)
          rw [along] at bound
          rw [here]
          show 0 < place.1 + depthChange place.2 current + depth current part
          omega
      refine ⟨⟨?_, later.1⟩, ?_⟩
      · rintro rfl
        have inside := comma [] (by simp)
        rw [depth, Int.add_zero] at inside
        omega
      · have behind : (place.behind (current :: rest)) =
            (place.next current).behind rest := rfl
        rw [behind, later.2, here, along]
        omega

/-- Text without brackets and separators is passed, and the depth stays. -/
theorem passes_of_plain {separator : Char} {place : Place} {text : List Char}
    (plain : ∀ character ∈ text, character ∉ openings ∧
      character ∉ closings ∧ character ≠ separator) :
    Passes separator place text ∧ (place.behind text).1 = place.1 := by
  induction text generalizing place with
  | nil => exact ⟨trivial, rfl⟩
  | cons current rest inductionHypothesis =>
      rcases plain current List.mem_cons_self with ⟨opens, closes, separates⟩
      have here : (place.next current).1 = place.1 := by
        have unchanged : depthChange place.2 current = 0 := by
          rw [depthChange, if_neg opens, if_neg fun both => closes both.1]
        have counted : ((place.next current).1 : Int) =
            place.1 + depthChange place.2 current := by
          apply depthAfter_eq
          omega
        rw [unchanged, Int.add_zero] at counted
        exact Int.ofNat_inj.mp counted
      have later : Passes separator (place.next current) rest ∧
          ((place.next current).behind rest).1 = (place.next current).1 :=
        inductionHypothesis fun other member =>
          plain other (List.mem_cons_of_mem _ member)
      rcases later with ⟨passes, stays⟩
      exact ⟨⟨fun same => absurd same separates, passes⟩, stays.trans here⟩

/-! ## Parameters are read back -/

/-- Everything that a name may not hold is absent in front of a colon. -/
def IsPlain (text : List Char) : Prop :=
  ∀ character ∈ text, character ∉ openings ∧ character ∉ closings ∧
    character ≠ ',' ∧ character ≠ ':'

theorem isPlain_blanks (blanks : Blanks) : IsPlain blanks.val := by
  intro character member
  have noMark : character ∉ openings ++ closings ++ [',', ':'] :=
    Text.not_mem_of_isBlank (by decide) (blanks.property character member)
  simpa [and_assoc] using noMark

theorem IsPlain.append {first second : List Char} (early : IsPlain first)
    (late : IsPlain second) : IsPlain (first ++ second) := by
  intro character member
  rcases List.mem_append.mp member with isFirst | isSecond
  · exact early character isFirst
  · exact late character isSecond

/-- A scan for either separator passes plain text. -/
theorem IsPlain.passes {separator : Char} (isSeparator : separator ∈ [',', ':'])
    {text : List Char} (plain : IsPlain text) (place : Place) :
    Passes separator place text ∧ (place.behind text).1 = place.1 := by
  apply passes_of_plain
  intro character member
  rcases plain character member with ⟨opens, closes, noComma, noColon⟩
  refine ⟨opens, closes, ?_⟩
  rintro rfl
  simp only [List.mem_cons, List.not_mem_nil, or_false] at isSeparator
  rcases isSeparator with rfl | rfl
  · exact noComma rfl
  · exact noColon rfl

theorem IsType.passes {text : List Char} (isType : IsType text) :
    Passes ',' (0, ':') text ∧ (Place.behind (0, ':') text).1 = 0 := by
  have counted : Passes ',' (0, ':') text ∧
      ((Place.behind (0, ':') text).1 : Int) = 0 + depth ':' text := by
    apply passes_of_depth
    · intro part isPart
      rw [Int.natCast_zero, Int.zero_add]
      exact isType.nonnegative part isPart
    · intro part isPart
      rw [Int.natCast_zero, Int.zero_add]
      exact isType.comma part isPart
  rw [isType.closed] at counted
  exact ⟨counted.1, Int.ofNat_inj.mp counted.2⟩

namespace Parameter

variable (parameter : Parameter)

theorem isPlain_binding : IsPlain parameter.binding := by
  have word : IsPlain "mut ".toList := List.forall_iff_forall_mem.mp (by decide)
  have mark : IsPlain parameter.mark := by
    rw [Parameter.mark]
    split
    · exact fun _ member => absurd member List.not_mem_nil
    · exact word.append (isPlain_blanks _)
  exact ((isPlain_blanks _).append (mark.append parameter.name.plain)).append
    (isPlain_blanks _)

/-- A scan for commas passes a parameter and is outside of brackets behind
it. -/
theorem passes_written (previous : Char) :
    Passes ',' (0, previous) parameter.written ∧
      (Place.behind (0, previous) parameter.written).1 = 0 := by
  have binding : Passes ',' (0, previous) parameter.binding ∧
      (Place.behind (0, previous) parameter.binding).1 = 0 :=
    parameter.isPlain_binding.passes (by decide) _
  unfold written
  split
  · exact binding
  · rename_i type _
    have colon : (Place.behind (0, previous) parameter.binding).next ':' =
        (0, ':') := by
      have unchanged : depthAfter 0
          (Place.behind (0, previous) parameter.binding).2 ':' = 0 := by
        rfl
      rw [Place.next, binding.2, unchanged]
    have annotation : Passes ','
        (Place.behind (0, previous) parameter.binding) (':' :: type.val) := by
      refine ⟨fun same => absurd same (by decide), ?_⟩
      rw [colon]
      exact type.property.passes.1
    refine ⟨binding.1.append annotation, ?_⟩
    have behind : Place.behind (0, previous)
        (parameter.binding ++ ':' :: type.val) =
          ((Place.behind (0, previous) parameter.binding).next ':').behind
            type.val := by
      rw [behind_append]
      rfl
    rw [behind, colon]
    exact type.property.passes.2

/-- The part of a parameter in front of its first colon. -/
theorem headD_written :
    (splitTopLevel ':' parameter.written).headD [] = parameter.binding := by
  have binding : Passes ':' (0, '\x00') parameter.binding ∧
      (Place.behind (0, '\x00') parameter.binding).1 = 0 :=
    parameter.isPlain_binding.passes (by decide) _
  unfold written
  split
  · rw [splitTopLevel, splitFrom_of_passes binding.1]
    rfl
  · rw [splitTopLevel, splitFrom_append_cons binding.1 binding.2]
    rfl

theorem trim_binding :
    Text.trim parameter.binding = parameter.mark ++ parameter.name.text := by
  apply Text.trim_append parameter.before.property parameter.behind.property
  · unfold mark
    split
    · exact parameter.name.starts
    · rintro first ⟨⟩
      decide
  · intro last isLast
    rw [List.getLast?_append,
      List.getLast?_eq_some_getLast parameter.name.nonempty] at isLast
    apply parameter.name.ends last
    rw [List.getLast?_eq_some_getLast parameter.name.nonempty]
    exact isLast

/-- The name is what a parameter binds. -/
theorem bindingOf_written :
    bindingOf parameter.written = parameter.name.text := by
  rw [bindingOf, headD_written, trim_binding]
  unfold mark withoutMutable
  split
  · have unmarked : ¬"mut ".toList.isPrefixOf parameter.name.text = true := by
      rw [List.isPrefixOf_iff_prefix]
      exact parameter.name.unmarked
    rw [List.nil_append, if_neg unmarked]
  · rename_i blanks _
    have marked : "mut ".toList.isPrefixOf
        ("mut ".toList ++ blanks.val ++ parameter.name.text) = true := by
      rw [List.isPrefixOf_iff_prefix, List.append_assoc]
      exact List.prefix_append _ _
    have dropped : ("mut ".toList ++ blanks.val ++ parameter.name.text).drop 4 =
        blanks.val ++ parameter.name.text := rfl
    have clear : Text.trimLeft parameter.name.text = parameter.name.text := by
      apply List.dropWhile_eq_self_iff.mpr
      intro nonempty
      apply Bool.eq_false_iff.mp
      apply parameter.name.starts
      exact List.head?_eq_getElem? ▸ List.getElem?_eq_getElem nonempty
    rw [if_pos marked, dropped, Text.trimLeft,
      List.dropWhile_append_of_pos blanks.property]
    exact clear

end Parameter

/-! ## Lists are read back -/

theorem splitFrom_intercalate {parts : List (List Char)} (nonempty : parts ≠ [])
    (passes : ∀ part ∈ parts, ∀ previous, Passes ',' (0, previous) part ∧
      (Place.behind (0, previous) part).1 = 0) (previous : Char) :
    splitFrom ',' 0 previous ([','].intercalate parts) = parts := by
  induction parts generalizing previous with
  | nil => exact absurd rfl nonempty
  | cons part rest inductionHypothesis =>
      rcases passes part List.mem_cons_self previous with ⟨own, outside⟩
      cases rest with
      | nil =>
          rw [List.intercalate_singleton]
          exact splitFrom_of_passes own
      | cons second others =>
          have later := inductionHypothesis (List.cons_ne_nil _ _)
            (fun other member => passes other (List.mem_cons_of_mem _ member))
          rw [List.intercalate_cons_cons, List.append_assoc,
            List.singleton_append, splitFrom_append_cons own outside, later]

/-- One more part is one more comma. -/
theorem intercalate_concat {parts : List (List Char)} (nonempty : parts ≠ [])
    (last : List Char) :
    [','].intercalate (parts ++ [last]) =
      [','].intercalate parts ++ ',' :: last := by
  induction parts with
  | nil => exact absurd rfl nonempty
  | cons part rest inductionHypothesis =>
      cases rest with
      | nil =>
          rw [List.intercalate_singleton]
          exact List.intercalate_cons_cons.trans (by simp)
      | cons second others =>
          rw [List.cons_append, List.cons_append, List.intercalate_cons_cons,
            ← List.cons_append, inductionHypothesis (List.cons_ne_nil _ _),
            List.intercalate_cons_cons]
          simp only [List.append_assoc]

theorem bindingOf_blanks (blanks : Blanks) : bindingOf blanks.val = [] := by
  have plain : Passes ':' (0, '\x00') blanks.val :=
    ((isPlain_blanks blanks).passes (by decide) _).1
  have nothing : Text.trim blanks.val = [] := by
    have alone : Text.trim (blanks.val ++ [] ++ []) = [] :=
      Text.trim_append blanks.property
        (fun _ member => absurd member List.not_mem_nil)
        (fun _ isFirst => by cases isFirst) (fun _ isLast => by cases isLast)
    rwa [List.append_nil, List.append_nil] at alone
  rw [bindingOf, splitTopLevel, splitFrom_of_passes plain, List.headD_cons,
    nothing]
  rfl

/-- The parts of a written list are its parameters, and possibly a part of
blanks at either end. -/
theorem splitTopLevel_writtenList (parameters : List Parameter)
    (trailing : Option Blanks) :
    ∃ first last : List Blanks,
      splitTopLevel ',' (writtenList parameters trailing) =
        first.map Subtype.val ++ parameters.map Parameter.written ++
          last.map Subtype.val := by
  have passes : ∀ part ∈ parameters.map Parameter.written, ∀ previous,
      Passes ',' (0, previous) part ∧
        (Place.behind (0, previous) part).1 = 0 := by
    intro part member
    rcases List.mem_map.mp member with ⟨parameter, _, rfl⟩
    exact parameter.passes_written
  have passesBlanks (blanks : Blanks) (previous : Char) :
      Passes ',' (0, previous) blanks.val ∧
        (Place.behind (0, previous) blanks.val).1 = 0 :=
    (isPlain_blanks blanks).passes (by decide) _
  let nothing : Blanks := ⟨[], fun _ member => absurd member List.not_mem_nil⟩
  rw [splitTopLevel]
  cases parameters with
  | nil =>
      cases trailing with
      | none => exact ⟨[nothing], [], rfl⟩
      | some blanks =>
          refine ⟨[nothing, blanks], [], ?_⟩
          have alone := splitFrom_of_passes (passesBlanks blanks ',').1
          show [] :: splitFrom ',' 0 ',' blanks.val = _
          rw [alone]
          rfl
  | cons parameter rest =>
      have nonempty : (parameter :: rest).map Parameter.written ≠ [] :=
        List.cons_ne_nil _ _
      cases trailing with
      | none =>
          refine ⟨[], [], ?_⟩
          rw [writtenList, List.append_nil,
            splitFrom_intercalate nonempty passes]
          simp
      | some blanks =>
          refine ⟨[], [blanks], ?_⟩
          rw [writtenList, ← intercalate_concat nonempty,
            splitFrom_intercalate (by simp)]
          · rfl
          · intro part member
            rcases List.mem_append.mp member with isParameter | isLast
            · exact passes part isParameter
            · rw [List.mem_singleton.mp isLast]
              exact passesBlanks blanks

/-- Whatever marks, blanks and types the parameters of a list are written with,
the list binds their names in order. -/
theorem bindings_writtenList (parameters : List Parameter)
    (trailing : Option Blanks) :
    bindings (String.ofList (writtenList parameters trailing)) =
      parameters.map fun parameter => String.ofList parameter.name.text := by
  have unnamed (blanks : List Blanks) :
      ((blanks.map Subtype.val).map bindingOf).filter (!·.isEmpty) = [] := by
    rw [List.map_map, List.filter_eq_nil_iff]
    intro binding member
    rcases List.mem_map.mp member with ⟨part, _, rfl⟩
    rw [Function.comp_apply, bindingOf_blanks]
    decide
  have named :
      ((parameters.map Parameter.written).map bindingOf).filter
          (!·.isEmpty) = parameters.map (·.name.text) := by
    rw [List.map_map, List.filter_eq_self.mpr]
    · exact List.map_congr_left fun parameter _ => parameter.bindingOf_written
    · intro binding member
      rcases List.mem_map.mp member with ⟨parameter, _, rfl⟩
      rw [Function.comp_apply, parameter.bindingOf_written]
      simpa [List.isEmpty_iff] using parameter.name.nonempty
  rcases splitTopLevel_writtenList parameters trailing with ⟨first, last, parts⟩
  rw [bindings, String.toList_ofList, bindingChars, parts, List.map_append,
    List.map_append, List.filter_append, List.filter_append, unnamed, unnamed,
    named, List.nil_append, List.append_nil, List.map_map]
  rfl

/-- Two parameters of a listener: one with a mark and one with a type that has
an arrow, colons and a comma. -/
def listener : List Parameter :=
  [ { before := ⟨[], List.all_eq_true.mp (by decide)⟩
      mutability := some ⟨[' '], List.all_eq_true.mp (by decide)⟩
      name :=
        { text := "times".toList
          nonempty := by decide
          starts := by rintro first ⟨⟩; decide
          ends := by rintro last ⟨⟩; decide
          plain := List.forall_iff_forall_mem.mp (by decide)
          unmarked := by decide }
      behind := ⟨['\t'], List.all_eq_true.mp (by decide)⟩
      type := some ⟨" u32".toList, by decide⟩ },
    { before := ⟨['\n'], List.all_eq_true.mp (by decide)⟩
      mutability := none
      name :=
        { text := "done".toList
          nonempty := by decide
          starts := by rintro first ⟨⟩; decide
          ends := by rintro last ⟨⟩; decide
          plain := List.forall_iff_forall_mem.mp (by decide)
          unmarked := by decide }
      behind := ⟨[], List.all_eq_true.mp (by decide)⟩
      type := some ⟨" Box<dyn Fn(a::B, [u8; 2]) -> C>".toList, by decide⟩ } ]

theorem listener_bindings_writtenList :
    bindings "mut  times\t: u32,\ndone: Box<dyn Fn(a::B, [u8; 2]) -> C>," =
      ["times", "done"] := by
  let nothing : Blanks := ⟨[], List.all_eq_true.mp (by decide)⟩
  have written : String.ofList (writtenList listener (some nothing)) =
      "mut  times\t: u32,\ndone: Box<dyn Fn(a::B, [u8; 2]) -> C>," := by decide
  rw [← written, bindings_writtenList]
  decide

end Templating.Parameters

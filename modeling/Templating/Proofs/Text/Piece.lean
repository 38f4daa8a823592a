import Mathlib.Data.List.DropRight
import Templating.Text.Blank
import Templating.Text.Search

/-!
# Trimmed texts and their pieces

Trimmed text has no blanks left at its ends, so trimming it again changes
nothing.  A piece without a mark lies on one side of the mark, and a text that
was joined by marks is told apart by them.
-/

namespace Templating.Text

/-! ## Blanks -/

/-- Letters and digits lie between the blanks of ASCII and the others. -/
theorem toNat_of_isAlphanum {character : Char}
    (alphanum : character.isAlphanum = true) :
    48 ≤ character.toNat ∧ character.toNat ≤ 122 := by
  delta Char.isAlphanum Char.isAlpha Char.isUpper Char.isLower Char.isDigit
    at alphanum
  simp only [Bool.or_eq_true, Bool.and_eq_true, decide_eq_true_eq,
    UInt32.le_iff_toNat_le, ge_iff_le] at alphanum
  have value : character.toNat = character.val.toNat := rfl
  have bounds : 'A'.val.toNat = 65 ∧ 'Z'.val.toNat = 90 ∧ 'a'.val.toNat = 97 ∧
      'z'.val.toNat = 122 ∧ '0'.val.toNat = 48 ∧ '9'.val.toNat = 57 := by
    decide
  omega

theorem toNat_of_isBlank {character : Char}
    (blank : isBlank character = true) :
    character.toNat ≤ 32 ∨ 133 ≤ character.toNat := by
  rcases List.any_eq_true.mp blank with ⟨range, isRange, inside⟩
  rw [Bool.and_eq_true, decide_eq_true_eq, decide_eq_true_eq] at inside
  have outside : ∀ range ∈ blankRanges, range.2 ≤ 32 ∨ 133 ≤ range.1 := by
    decide
  have sides := outside range isRange
  omega

theorem isBlank_of_isAlphanum {character : Char}
    (alphanum : character.isAlphanum = true) : isBlank character = false := by
  have between := toNat_of_isAlphanum alphanum
  rw [← Bool.not_eq_true]
  intro blank
  have sides := toNat_of_isBlank blank
  omega

/-- No blank is among visible characters. -/
theorem not_mem_of_isBlank {visible : List Char}
    (isVisible : visible.all (!isBlank ·) = true) {character : Char}
    (blank : isBlank character = true) : character ∉ visible := by
  intro member
  have clear := List.all_eq_true.mp isVisible character member
  rw [blank] at clear
  cases clear

/-- A first part of a text that starts without a blank does so as well. -/
theorem trimLeft_of_prefix {part whole : List Char} (isPart : part <+: whole)
    (trimmed : trimLeft whole = whole) : trimLeft part = part := by
  cases part with
  | nil => rfl
  | cons first rest =>
      rcases isPart with ⟨others, rfl⟩
      have clear := List.dropWhile_eq_self_iff.mp trimmed (Nat.succ_pos _)
      exact List.dropWhile_eq_self_iff.mpr fun _ => clear

/-- Trimmed text has no blanks at its ends. -/
theorem trim_trim (characters : List Char) :
    trim (trim characters) = trim characters := by
  have left : trimLeft (trim characters) = trim characters := by
    apply trimLeft_of_prefix (List.rdropWhile_prefix _ _)
    exact List.dropWhile_idempotent _ _
  rw [trim, left]
  exact List.rdropWhile_idempotent _ _

theorem trim_of_clear {characters : List Char}
    (clear : ∀ character ∈ characters, isBlank character = false) :
    trim characters = characters := by
  have left : trimLeft characters = characters :=
    List.dropWhile_eq_self_iff.mpr fun nonempty =>
      Bool.eq_false_iff.mp (clear _ (List.getElem_mem nonempty))
  rw [trim, left]
  exact List.rdropWhile_eq_self_iff.mpr fun nonempty =>
    Bool.eq_false_iff.mp (clear _ (List.getLast_mem nonempty))

/-- Blanks around a text that has none at its ends are what trimming drops. -/
theorem trim_append {before text behind : List Char}
    (blankBefore : ∀ character ∈ before, isBlank character = true)
    (blankBehind : ∀ character ∈ behind, isBlank character = true)
    (starts : ∀ first ∈ text.head?, isBlank first = false)
    (ends : ∀ last ∈ text.getLast?, isBlank last = false) :
    trim (before ++ text ++ behind) = text := by
  have left : trimLeft (before ++ text ++ behind) = trimLeft (text ++ behind) := by
    rw [List.append_assoc]
    exact List.dropWhile_append_of_pos blankBefore
  have right (whole : List Char) : trimRight (whole ++ behind) =
      trimRight whole := by
    rw [trimRight, List.reverse_append, trimLeft, List.dropWhile_append_of_pos]
    · rfl
    · intro character member
      exact blankBehind character (List.mem_reverse.mp member)
  cases text with
  | nil =>
      have nothing : trimLeft behind = [] :=
        List.dropWhile_eq_nil_iff.mpr blankBehind
      rw [trim, left, List.nil_append, nothing]
      rfl
  | cons first rest =>
      have clear := starts first rfl
      rw [trim, left, List.cons_append, trimLeft, List.dropWhile_cons_of_neg
        (Bool.eq_false_iff.mp clear), ← List.cons_append, right]
      apply List.rdropWhile_eq_self_iff.mpr
      intro nonempty
      exact Bool.eq_false_iff.mp
        (ends _ (List.getLast_mem_getLast? nonempty))

/-- Trimming drops nothing but blanks. -/
theorem exists_eq_trim (text : List Char) :
    ∃ before behind, text = before ++ (trim text ++ behind) ∧
      (∀ character ∈ before, isBlank character = true) ∧
      ∀ character ∈ behind, isBlank character = true := by
  refine ⟨text.takeWhile isBlank, (trimLeft text).rtakeWhile isBlank, ?_, ?_, ?_⟩
  · have right : trim text ++ (trimLeft text).rtakeWhile isBlank =
        trimLeft text := List.rdropWhile_append_rtakeWhile
    rw [right]
    exact List.takeWhile_append_dropWhile.symm
  · intro character member
    exact List.mem_takeWhile_imp member
  · intro character member
    exact List.mem_rtakeWhile_imp member

/-! ## Pieces across marks -/

/-- A piece without the mark lies on one side of it. -/
theorem infix_append_cons {α : Type} {piece left right : List α} {mark : α}
    (absent : mark ∉ piece) (inside : piece <:+: left ++ mark :: right) :
    piece <:+: left ∨ piece <:+: right := by
  rcases List.infix_append_iff.mp inside with
    early | late | ⟨first, second, rfl, isEnd, isStart⟩
  · exact .inl early
  · rcases List.infix_cons_iff.mp late with isStart | later
    · cases piece with
      | nil => exact .inl List.nil_infix
      | cons character rest =>
          rw [(List.cons_prefix_cons.mp isStart).1] at absent
          exact absurd List.mem_cons_self absent
    · exact .inr later
  · cases second with
    | nil =>
        rw [List.append_nil]
        exact .inl isEnd.isInfix
    | cons character rest =>
        rw [(List.cons_prefix_cons.mp isStart).1] at absent
        exact absurd (List.mem_append_right _ List.mem_cons_self) absent

/-- Only letters come from other characters in lower case. -/
theorem eq_of_toLower {character mark : Char} (noLetter : mark.isAlpha = false)
    (lower : character.toLower = mark) : character = mark := by
  unfold Char.toLower at lower
  split at lower
  · rename_i upper
    have bounds : 'A'.val.toNat = 65 ∧ 'Z'.val.toNat = 90 ∧
        'a'.val.toNat = 97 ∧ 'z'.val.toNat = 122 ∧
        ('a'.val - 'A'.val).toNat = 32 := by decide
    rw [ge_iff_le, UInt32.le_iff_toNat_le, UInt32.le_iff_toNat_le] at upper
    subst lower
    delta Char.isAlpha Char.isLower at noLetter
    simp only [Bool.or_eq_false_iff, Bool.and_eq_false_iff,
      decide_eq_false_iff_not, ge_iff_le, UInt32.le_iff_toNat_le,
      UInt32.toNat_add] at noLetter
    omega
  · exact lower

/-- A piece with a mark that is no letter needs that mark in the text. -/
theorem not_infix_lower {piece text : List Char} {mark : Char}
    (noLetter : mark.isAlpha = false) (marked : mark ∈ piece)
    (absent : mark ∉ text) : ¬piece <:+: text.map Char.toLower := by
  intro inside
  rcases List.mem_map.mp (inside.subset marked) with ⟨character, member, lower⟩
  exact absent (eq_of_toLower noLetter lower ▸ member)

/-! ## Splitting at marks -/

theorem ne_of_not_mem {text : List Char} {mark : Char} (absent : mark ∉ text) :
    ∀ character ∈ text, (character == mark) = false := by
  intro character member
  rw [beq_eq_false_iff_ne]
  rintro rfl
  exact absent member

theorem splitOn_append_cons {first : List Char} {mark : Char}
    (absent : mark ∉ first) (rest : List Char) :
    (first ++ mark :: rest).splitOn mark = first :: rest.splitOn mark := by
  have isMark : (fun character => character == mark) mark = true :=
    beq_self_eq_true mark
  exact List.splitOnP_append_cons_of_forall_mem (ne_of_not_mem absent) mark
    isMark rest

/-- Joined texts have no other characters than their own and those that
separate them. -/
theorem mem_intercalate {texts : List (List Char)} {separator : List Char}
    {character : Char} (member : character ∈ separator.intercalate texts) :
    character ∈ separator ∨ ∃ text ∈ texts, character ∈ text := by
  induction texts with
  | nil => cases member
  | cons text rest inductionHypothesis =>
      cases rest with
      | nil =>
          rw [List.intercalate_singleton] at member
          exact .inr ⟨text, List.mem_cons_self, member⟩
      | cons next others =>
          rw [List.intercalate_cons_cons, List.mem_append, List.mem_append]
            at member
          rcases member with (inText | separates) | later
          · exact .inr ⟨text, List.mem_cons_self, inText⟩
          · exact .inl separates
          · rcases inductionHypothesis later with
              separates | ⟨other, isOther, inOther⟩
            · exact .inl separates
            · exact .inr ⟨other, List.mem_cons_of_mem _ isOther, inOther⟩

theorem splitOn_of_not_mem {text : List Char} {mark : Char}
    (absent : mark ∉ text) : text.splitOn mark = [text] :=
  List.splitOnP_eq_singleton (ne_of_not_mem absent)

end Templating.Text

import Templating.Proofs.Text.Piece
import Templating.Style.Declaration

/-!
# Sanitized declarations

A sanitized name has only name characters, and a sanitized value only value
characters and no denied piece.  Sanitizing what is sanitized changes nothing,
since trimmed text has no blanks left at its ends.
-/

namespace Templating

namespace Style

/-! ## Characters -/

theorem isPropertyNameChar_of_mem {name : List Char}
    (accepted : isPropertyName name = true) {character : Char}
    (member : character ∈ name) : isPropertyNameChar character = true := by
  have plain : ∀ {rest : List Char}, isPlainPropertyName rest = true →
      character ∈ rest → isPropertyNameChar character = true := by
    intro rest accepted member
    cases rest with
    | nil => cases accepted
    | cons first others =>
        rw [isPlainPropertyName, Bool.and_eq_true] at accepted
        rcases List.mem_cons.mp member with rfl | later
        · rw [isPropertyNameChar, Char.isAlphanum, accepted.1]
          rfl
        · exact List.all_eq_true.mp accepted.2 character later
  unfold isPropertyName at accepted
  split at accepted
  · rcases List.mem_cons.mp member with rfl | later
    · rfl
    · exact plain accepted later
  · exact plain accepted member

theorem isValueChar_of_isPropertyNameChar {character : Char}
    (accepted : isPropertyNameChar character = true) :
    isValueChar character = true := by
  rw [isPropertyNameChar, Bool.or_eq_true, decide_eq_true_eq] at accepted
  rcases accepted with alphanum | rfl
  · rw [isValueChar, alphanum]
    rfl
  · decide

theorem isBlank_of_isPropertyNameChar {character : Char}
    (accepted : isPropertyNameChar character = true) :
    Text.isBlank character = false := by
  rw [isPropertyNameChar, Bool.or_eq_true, decide_eq_true_eq] at accepted
  rcases accepted with alphanum | rfl
  · exact Text.isBlank_of_isAlphanum alphanum
  · decide

theorem isValueChar_of_mem {value : List Char}
    (accepted : isPropertyValue value = true) {character : Char}
    (member : character ∈ value) : isValueChar character = true := by
  rw [isPropertyValue, Bool.and_eq_true] at accepted
  exact List.all_eq_true.mp accepted.1 character member

theorem not_denied_of_isPropertyValue {value : List Char}
    (accepted : isPropertyValue value = true) {piece : String}
    (denied : piece ∈ deniedPieces) :
    ¬piece.toList <:+: value.map Char.toLower := by
  rw [isPropertyValue, Bool.and_eq_true, Bool.not_eq_true', List.any_eq_false]
    at accepted
  rw [← Text.hasPiece_iff]
  exact accepted.2 piece denied

/-! ## Sanitizing again -/

theorem safePropertyName_of_accepted {name : List Char}
    (accepted : isPropertyName name = true) :
    safePropertyName name = name :=
  if_pos accepted

theorem safePropertyValue_of_accepted {value : List Char}
    (accepted : isPropertyValue value = true) :
    safePropertyValue value = value :=
  if_pos accepted

theorem trim_of_isPropertyName {name : List Char}
    (accepted : isPropertyName name = true) : Text.trim name = name :=
  Text.trim_of_clear fun _ member =>
    isBlank_of_isPropertyNameChar (isPropertyNameChar_of_mem accepted member)

theorem trim_safePropertyValue_trim (value : List Char) :
    Text.trim (safePropertyValue (Text.trim value)) =
      safePropertyValue (Text.trim value) := by
  unfold safePropertyValue
  split
  · exact Text.trim_trim value
  · decide

/-- A name and a value that sanitizing gave are kept by sanitizing. -/
theorem declarationChars_safe (name value : List Char) :
    declarationChars (safePropertyName name)
        (safePropertyValue (Text.trim value)) =
      safePropertyName name ++
        ':' :: safePropertyValue (Text.trim value) ++ [';'] := by
  rw [declarationChars,
    trim_of_isPropertyName (isPropertyName_safePropertyName name),
    safePropertyName_of_accepted (isPropertyName_safePropertyName name),
    trim_safePropertyValue_trim,
    safePropertyValue_of_accepted (isPropertyValue_safePropertyValue _)]

end Style

end Templating

import Templating.Markup.Escape

/-!
# Escaped text is read back

A reader of HTML replaces entities by the characters that they stand for.  In
escaped text this gives the text before it was escaped, because every ampersand
in it starts one of the five entities.  None of the other four characters with a
meaning is left.
-/

namespace Templating.Markup

/-- The entities of the characters with a meaning. -/
def entities : List String := ["&amp;", "&lt;", "&gt;", "&quot;", "&apos;"]

/-- The text with the five entities replaced by their characters, once from left
to right. -/
def unescapeChars : List Char → List Char
  | '&' :: 'a' :: 'm' :: 'p' :: ';' :: rest => '&' :: unescapeChars rest
  | '&' :: 'l' :: 't' :: ';' :: rest => '<' :: unescapeChars rest
  | '&' :: 'g' :: 't' :: ';' :: rest => '>' :: unescapeChars rest
  | '&' :: 'q' :: 'u' :: 'o' :: 't' :: ';' :: rest => '"' :: unescapeChars rest
  | '&' :: 'a' :: 'p' :: 'o' :: 's' :: ';' :: rest => '\'' :: unescapeChars rest
  | character :: rest => character :: unescapeChars rest
  | [] => []

def unescape (text : String) : String :=
  String.ofList (unescapeChars text.toList)

theorem unescapeChars_cons {character : Char} (plain : character ≠ '&')
    (rest : List Char) :
    unescapeChars (character :: rest) = character :: unescapeChars rest := by
  rw [unescapeChars]
  all_goals
    intro _ same
    exact absurd same plain

/-- A character is written as an entity or, if it has no meaning, as it is. -/
theorem escapeChar_cases (character : Char) :
    (∃ entity ∈ entities, escapeChar character = entity.toList) ∨
      (escapeChar character = [character] ∧
        character ∉ ['&', '<', '>', '"', '\'']) := by
  unfold escapeChar
  split
  case h_6 =>
    refine .inr ⟨rfl, ?_⟩
    simp only [List.mem_cons, List.not_mem_nil, or_false, not_or]
    exact ⟨‹_›, ‹_›, ‹_›, ‹_›, ‹_›⟩
  all_goals exact .inl ⟨_, by decide, rfl⟩

theorem unescapeChars_escapeChar (character : Char) (rest : List Char) :
    unescapeChars (escapeChar character ++ rest) =
      character :: unescapeChars rest := by
  unfold escapeChar
  split
  case h_6 plain _ _ _ _ => exact unescapeChars_cons plain rest
  all_goals rfl

theorem unescapeChars_escapeChars (text : List Char) :
    unescapeChars (escapeChars text) = text := by
  induction text with
  | nil => rfl
  | cons character rest inductionHypothesis =>
      rw [escapeChars, List.flatMap_cons, unescapeChars_escapeChar]
      rw [escapeChars] at inductionHypothesis
      rw [inductionHypothesis]

/-- Escaped text stands for the text that was escaped. -/
theorem unescape_escape (text : String) : unescape (escape text) = text := by
  rw [unescape, escape, String.toList_ofList, unescapeChars_escapeChars,
    String.ofList_toList]

/-- What an entity stands for is not replaced again. -/
example : unescape (escape "&lt; <b>") = "&lt; <b>" := by decide

theorem escape_append (first second : String) :
    escape (first ++ second) = escape first ++ escape second := by
  rw [escape, String.toList_append, escapeChars_append, String.ofList_append]
  rfl

theorem escapeChar_of_plain {character : Char}
    (plain : character ∉ ['&', '<', '>', '"', '\'']) :
    escapeChar character = [character] := by
  unfold escapeChar
  split
  case h_6 => rfl
  all_goals exact absurd (by decide) plain

theorem escapeChars_of_plain {text : List Char}
    (plain : ∀ character ∈ text, character ∉ ['&', '<', '>', '"', '\'']) :
    escapeChars text = text := by
  induction text with
  | nil => rfl
  | cons character rest inductionHypothesis =>
      rw [escapeChars, List.flatMap_cons,
        escapeChar_of_plain (plain character List.mem_cons_self)]
      exact congrArg (character :: ·) (inductionHypothesis fun other member =>
        plain other (List.mem_cons_of_mem _ member))

/-- Text without characters that have a meaning is written as it is. -/
theorem escape_of_plain {text : String}
    (plain : ∀ character ∈ text.toList, character ∉ ['&', '<', '>', '"', '\'']) :
    escape text = text := by
  rw [escape, escapeChars_of_plain plain, String.ofList_toList]

/-- No bracket and no quote is left in escaped text. -/
theorem not_mem_escape {mark : Char} (isMark : mark ∈ ['<', '>', '"', '\''])
    (text : String) : mark ∉ (escape text).toList := by
  have noMark : ∀ entity ∈ entities, entity.toList.all
      (fun character => character ∉ ['<', '>', '"', '\'']) = true := by decide
  rw [escape, String.toList_ofList]
  intro member
  rcases List.mem_flatMap.mp member with ⟨character, _, inside⟩
  rcases escapeChar_cases character with
    ⟨entity, isEntity, same⟩ | ⟨same, noMeaning⟩
  · rw [same] at inside
    have foreign := List.all_eq_true.mp (noMark entity isEntity) mark inside
    rw [decide_eq_true_eq] at foreign
    exact foreign isMark
  · rw [same, List.mem_singleton] at inside
    rw [inside] at isMark
    exact noMeaning (List.mem_cons_of_mem _ isMark)

theorem entity_of_mem_escapeChars {text before after : List Char}
    (found : escapeChars text = before ++ '&' :: after) :
    ∃ entity ∈ entities, entity.toList <+: '&' :: after := by
  have starts : ∀ entity ∈ entities,
      entity.toList.head? = some '&' ∧ '&' ∉ entity.toList.tail := by decide
  induction text generalizing before with
  | nil => simp [escapeChars] at found
  | cons character rest inductionHypothesis =>
      rw [escapeChars, List.flatMap_cons] at found
      rcases List.append_eq_append_iff.mp found with
        ⟨between, _, later⟩ | ⟨end', split, later⟩
      · exact inductionHypothesis later
      cases end' with
      | nil => exact @inductionHypothesis [] later.symm
      | cons first others =>
          rw [List.cons_append, List.cons.injEq] at later
          rcases later with ⟨rfl, isRest⟩
          rcases escapeChar_cases character with
            ⟨entity, isEntity, same⟩ | ⟨same, noMeaning⟩
          · -- The ampersand of an entity is its first character.
            rw [same] at split
            have ends := starts entity isEntity
            rw [split] at ends
            cases before with
            | nil =>
                refine ⟨entity, isEntity, ?_⟩
                rw [split, isRest]
                exact ⟨_, rfl⟩
            | cons _ _ =>
                refine absurd ?_ ends.2
                exact List.mem_append_right _ List.mem_cons_self
          · rw [same] at split
            have isOnly : '&' ∈ [character] := by
              rw [split]
              exact List.mem_append_right _ List.mem_cons_self
            rw [List.mem_singleton] at isOnly
            rw [← isOnly] at noMeaning
            exact absurd List.mem_cons_self noMeaning

/-- Every ampersand in escaped text starts one of the five entities. -/
theorem entity_of_mem_escape {text : String} {before after : List Char}
    (found : (escape text).toList = before ++ '&' :: after) :
    ∃ entity ∈ entities, entity.toList <+: '&' :: after := by
  rw [escape, String.toList_ofList] at found
  exact entity_of_mem_escapeChars found

end Templating.Markup

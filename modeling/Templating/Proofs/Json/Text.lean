import Templating.Json.Printer
import Templating.Json.Reader

/-!
# Strings are read back from every spelling

A character may stand in a string as it is or as an escape, and the reader turns
every spelling of it into items that stand for the character whatever items
follow them.  The second half matters because an escape in front of another
escape can be half of a surrogate pair; the unit of a character never is such a
half.

The printer chooses one spelling for each character.
-/

namespace Templating.Json

/-- The ways of writing a character inside a string. -/
inductive SpellsChar : Char → List Char → Prop where
  | plain {character : Char} (shown : ¬character.toNat < 0x20)
      (noQuote : character ≠ '"') (noBackslash : character ≠ '\\') :
      SpellsChar character [character]
  | short {letter character : Char}
      (isShort : shortEscape? letter = some character) :
      SpellsChar character ['\\', letter]
  | unit {character first second third fourth : Char}
      (quad : hexQuad? first second third fourth = some character.toNat) :
      SpellsChar character ['\\', 'u', first, second, third, fourth]
  | pair {high low : Nat}
      {first second third fourth fifth sixth seventh eighth : Char}
      (highQuad : hexQuad? first second third fourth = some high)
      (lowQuad : hexQuad? fifth sixth seventh eighth = some low)
      (isHigh : isHighSurrogate high = true)
      (isLow : isLowSurrogate low = true) :
      SpellsChar (pairedChar high low)
        ['\\', 'u', first, second, third, fourth,
          '\\', 'u', fifth, sixth, seventh, eighth]

/-- The ways of writing the inside of a string. -/
inductive SpellsText : List Char → List Char → Prop where
  | nil : SpellsText [] []
  | cons {character : Char} {rest first later : List Char}
      (here : SpellsChar character first) (others : SpellsText rest later) :
      SpellsText (character :: rest) (first ++ later)

/-! ## Items -/

/-- The items stand for a character, whatever items follow. -/
def TextItem.Denote (items : List TextItem) (character : Char) : Prop :=
  ∀ more, decode? (items ++ more) = (decode? more).map (character :: ·)

theorem TextItem.denote_character (character : Char) :
    Denote [.character character] character := by
  intro more
  rw [List.singleton_append, decode?]

theorem TextItem.denote_escapedUnit (character : Char) :
    Denote [.escapedUnit character.toNat] character := by
  have valid : character.toNat < 0xD800 ∨
      0xDFFF < character.toNat ∧ character.toNat < 0x110000 :=
    character.valid
  have notHigh : isHighSurrogate character.toNat = false := by
    simp [isHighSurrogate]
    omega
  have notLow : isLowSurrogate character.toNat = false := by
    simp [isLowSurrogate]
    omega
  intro more
  rcases more with _ | ⟨_ | low, rest⟩ <;> simp [decode?, notHigh, notLow]

theorem TextItem.denote_pair {high low : Nat}
    (isHigh : isHighSurrogate high = true)
    (isLow : isLowSurrogate low = true) :
    Denote [.escapedUnit high, .escapedUnit low] (pairedChar high low) := by
  intro more
  simp [decode?, isHigh, isLow]

/-! ## Reading -/

theorem readItems_unit {first second third fourth : Char} {unit : Nat}
    (quad : hexQuad? first second third fourth = some unit) (rest : List Char) :
    readItems ('\\' :: 'u' :: first :: second :: third :: fourth :: rest) =
      (readItems rest).map fun (items, after) =>
        (.escapedUnit unit :: items, after) := by
  rw [readItems, quad]
  rfl

/-- Every spelling of a character is read as items that stand for it. -/
theorem readItems_spelledChar {character : Char} {spelling : List Char}
    (spells : SpellsChar character spelling) :
    ∃ here : List TextItem, TextItem.Denote here character ∧
      ∀ rest, readItems (spelling ++ rest) =
        (readItems rest).map fun (items, after) => (here ++ items, after) := by
  cases spells with
  | plain shown noQuote noBackslash =>
      refine ⟨_, TextItem.denote_character character, ?_⟩
      intro rest
      show readItems (character :: rest) = _
      rw [readItems, if_neg shown]
      · rfl
      · exact noQuote
      · intro same _
        exact noBackslash same
      · intro _ same _
        exact noBackslash same
      · intro _ _ same _
        exact noBackslash same
  | short isShort =>
      refine ⟨_, TextItem.denote_character character, ?_⟩
      intro rest
      unfold shortEscape? at isShort
      split at isShort <;> cases isShort <;> rfl
  | unit quad =>
      exact ⟨_, TextItem.denote_escapedUnit character, readItems_unit quad⟩
  | pair highQuad lowQuad isHigh isLow =>
      refine ⟨_, TextItem.denote_pair isHigh isLow, ?_⟩
      intro rest
      show readItems ('\\' :: 'u' :: _ :: _ :: _ :: _ :: '\\' :: 'u' :: _ :: _ ::
        _ :: _ :: rest) = _
      rw [readItems_unit highQuad, readItems_unit lowQuad]
      cases readItems rest <;> rfl

theorem readItems_spelled {text spelling : List Char}
    (spells : SpellsText text spelling) (rest : List Char) :
    ∃ items, TextItem.decode? items = some text ∧
      readItems (spelling ++ '"' :: rest) = .ok (items, rest) := by
  induction spells with
  | nil => exact ⟨[], rfl, rfl⟩
  | cons here others inductionHypothesis =>
      rcases readItems_spelledChar here with ⟨first, denote, step⟩
      rcases inductionHypothesis with ⟨items, decoded, ok⟩
      refine ⟨first ++ items, ?_, ?_⟩
      · rw [denote, decoded]
        rfl
      · rw [List.append_assoc, step, ok]
        rfl

/-- A string is read behind its opening quote. -/
theorem readText_spelled {text : String} {spelling : List Char}
    (spells : SpellsText text.toList spelling) (rest : List Char) :
    readText (spelling ++ '"' :: rest) = .ok (some text, rest) := by
  rcases readItems_spelled spells rest with ⟨items, decoded, ok⟩
  rw [readText, ok]
  show Except.ok (Option.map String.ofList _, rest) = _
  rw [decoded, Option.map_some, String.ofList_toList]

/-! ## What is printed -/

theorem hexValue?_digitChar {value : Nat} (small : value < 16) :
    hexValue? (Nat.digitChar value) = some value := by
  revert value
  decide

theorem hexQuad?_hexPair {value : Nat} (small : value < 256) :
    hexQuad? '0' '0' (Nat.digitChar (value / 16)) (Nat.digitChar (value % 16)) =
      some value := by
  have zero : hexValue? '0' = some 0 := rfl
  rw [hexQuad?, zero, hexValue?_digitChar (by omega),
    hexValue?_digitChar (by omega)]
  show some _ = some _
  congr 1
  omega

theorem spellsChar_writtenChar (character : Char) :
    SpellsChar character (writtenChar character) := by
  unfold writtenChar
  split
  case h_8 noQuote noBackslash _ _ _ _ _ =>
    split
    · exact .unit (hexQuad?_hexPair (by omega))
    · rename_i shown
      exact .plain shown noQuote noBackslash
  -- The other cases are the escapes of two characters.
  all_goals exact .short rfl

theorem spellsText_flatMap_writtenChar (text : List Char) :
    SpellsText text (text.flatMap writtenChar) := by
  induction text with
  | nil => exact .nil
  | cons character rest inductionHypothesis =>
      rw [List.flatMap_cons]
      exact .cons (spellsChar_writtenChar character) inductionHypothesis

end Templating.Json

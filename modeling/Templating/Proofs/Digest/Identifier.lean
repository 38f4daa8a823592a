import Templating.Digest.Identifier

/-!
# Identifiers are taken apart

However a name ends, what an identifier adds to it has one length: an underscore
and a fixed number of digits, whatever the content is.  So the name and the
digits can be told from the identifier.
-/

namespace Templating.Digest

theorem length_hexPrefix (text : String) {length : Nat} (short : length ≤ 64) :
    (hexPrefix text length).toList.length = length := by
  rw [hexPrefix, String.toList_ofList, List.length_take, length_hex]
  exact Nat.min_eq_left short

/-- Every character of a digest writes a number below sixteen. -/
theorem exists_digitChar_of_mem_hex {state : State} {character : Char}
    (member : character ∈ state.hex) :
    ∃ value : Fin 16, character = Nat.digitChar value.val := by
  rcases List.mem_flatMap.mp member with ⟨word, _, isDigit⟩
  rcases List.mem_map.mp isDigit with ⟨shift, _, rfl⟩
  have small : ((word >>> shift) &&& 15).toNat < 16 := by
    rw [UInt32.toNat_and]
    exact Nat.lt_succ_of_le Nat.and_le_right
  exact ⟨⟨_, small⟩, rfl⟩

theorem mem_digits_of_mem_hexPrefix {text : String} {length : Nat}
    {character : Char} (member : character ∈ (hexPrefix text length).toList) :
    character ∈ "0123456789abcdef".toList := by
  have digits : ∀ value : Fin 16,
      Nat.digitChar value.val ∈ "0123456789abcdef".toList := by decide
  rw [hexPrefix, String.toList_ofList] at member
  rcases exists_digitChar_of_mem_hex (List.mem_of_mem_take member) with
    ⟨value, rfl⟩
  exact digits value

/-- A name in front of an underscore and kept digits is told from them. -/
theorem append_hexPrefix_inj {name other text content : String} :
    name ++ "_" ++ hexPrefix text keptDigits =
        other ++ "_" ++ hexPrefix content keptDigits ↔
      name = other ∧ hexPrefix text keptDigits = hexPrefix content keptDigits := by
  constructor
  · intro same
    have characters := congrArg String.toList same
    simp only [String.toList_append] at characters
    have lengths : (hexPrefix text keptDigits).toList.length =
        (hexPrefix content keptDigits).toList.length := by
      rw [length_hexPrefix text (by decide), length_hexPrefix content (by decide)]
    rcases List.append_inj' characters lengths with ⟨names, digits⟩
    exact ⟨String.toList_injective (List.append_cancel_right names),
      String.toList_injective digits⟩
  · rintro ⟨rfl, digits⟩
    rw [digits]

theorem classIdentifier_inj {name other declarations content : String} :
    classIdentifier name declarations = classIdentifier other content ↔
      name = other ∧
        hexPrefix declarations keptDigits = hexPrefix content keptDigits :=
  append_hexPrefix_inj

theorem functionIdentifier_inj {name other body content : String} :
    functionIdentifier name body = functionIdentifier other content ↔
      name = other ∧ hexPrefix body keptDigits = hexPrefix content keptDigits := by
  rw [functionIdentifier, functionIdentifier, append_hexPrefix_inj,
    String.append_right_inj]

end Templating.Digest

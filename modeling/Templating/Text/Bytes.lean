/-!
# Texts as bytes

The UTF-8 bytes of a text, and the text that a sequence of bytes holds up to
the first place where it is not UTF-8.
-/

namespace Templating

/-- A sequence of bytes. -/
abbrev Bytes := List UInt8

namespace Text

/-- The UTF-8 bytes of a text. -/
def bytes (text : String) : Bytes :=
  text.toByteArray.data.toList

@[simp]
theorem bytes_empty : bytes "" = [] := rfl

@[simp]
theorem bytes_append (first second : String) :
    bytes (first ++ second) = bytes first ++ bytes second := by
  simp [bytes]

/-- Decodes characters from `place` on, as long as there are any. -/
def decodeFrom (data : ByteArray) (place : Nat) : List Char :=
  match ByteArray.utf8DecodeChar? data place with
  | none => []
  | some character =>
      if place < data.size then
        character :: decodeFrom data (place + character.utf8Size)
      else
        []
termination_by data.size - place
decreasing_by
  have := character.utf8Size_pos
  omega

/-- The longest text whose bytes the sequence starts with. -/
def decodePrefix (data : Bytes) : String :=
  String.ofList (decodeFrom data.toByteArray 0)

/-- The text that the bytes encode, if they are UTF-8. -/
def decode? (data : Bytes) : Option String :=
  String.fromUTF8? data.toByteArray

end Text

end Templating

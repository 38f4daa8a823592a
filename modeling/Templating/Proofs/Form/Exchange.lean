import Templating.Proofs.Form.Levels
import Templating.Proofs.Json.Nesting

/-!
# Values are read back from their texts

Every value with a JSON form is read back from its own text: positions, spans,
expressions, attributes, nodes, style properties, declarations, whole files,
source maps and settings.  Numbers and characters are not limited; nesting is,
by the levels that the reader allows.

A text may spell a value in another way than it is printed.  What is printed
for it is the text that every further round trip keeps.  It may have one level
more than the first text, so that one has to stay below the limit.
-/

namespace Templating

open Json

/-! ## Files -/

namespace StyleProperty

@[simp]
theorem decode_encode (inside : Bool) (property : StyleProperty) :
    decode inside property.encode = .ok property := by
  cases property <;> simp [decode, encode, tags, discreteFields, discrete]

theorem discrete_encode (property : StyleProperty) :
    property.encode.discrete = true := by
  cases property <;> rfl

@[simp]
theorem discreteItems_encode (properties : List StyleProperty) :
    discreteItems (properties.map encode) = true :=
  discreteItems_map fun property _ => property.discrete_encode

end StyleProperty

namespace Declaration

@[simp]
theorem decode_encode (declaration : Declaration) :
    decode declaration.encode = .ok declaration := by
  cases declaration <;> simp [decode, encode, tags, discreteFields, discrete]

theorem discrete_encode (declaration : Declaration) :
    declaration.encode.discrete = true := by
  cases declaration <;> simp [encode, discreteFields, discrete]

@[simp]
theorem discreteItems_encode (declarations : List Declaration) :
    discreteItems (declarations.map encode) = true :=
  discreteItems_map fun declaration _ => declaration.discrete_encode

end Declaration

namespace TemplateFile

theorem decode_encode (file : TemplateFile) : decode file.encode = .ok file := by
  simp [decode, encode]

theorem discrete_encode (file : TemplateFile) :
    file.encode.discrete = true := by
  have imports : discreteItems (file.imports.map Expression.encode) = true :=
    discreteItems_map fun path _ => path.discrete_encode
  simp [encode, discreteFields, discrete, imports]

end TemplateFile

/-! ## Round trips -/

namespace JsonForm

/-- Values of the type are told by their texts: a value whose levels the reader
allows is read back from its text.  A text that is accepted has a form without
the limit too, and if that stays below the limit, the text printed for what was
read is accepted again and printed again. -/
structure RoundTrips (α : Type) [JsonForm α] : Prop where
  parse_print : ∀ value : α, (encode value).levels ≤ levelLimit →
    parse (print value) = .ok value
  print_parse : ∀ (text : String) (value : α), parse text = .ok value →
    ∃ form, Json.read text = .ok form ∧
      (form.levels < levelLimit →
        ∃ again : α, parse (print value) = .ok again ∧
          print again = print value)

theorem roundTrips {α : Type} [JsonForm α]
    (isDiscrete : ∀ value : α, (encode value).discrete = true)
    (decoded : ∀ value : α, decode (encode value) = .ok value)
    (adds : AddsOneLevel decode (encode : α → Json)) :
    RoundTrips α := by
  have parsed : ∀ value : α, (encode value).levels ≤ levelLimit →
      parse (print value) = .ok value := by
    intro value enough
    rw [parse, print,
      readFor_textOf (isTextOf_print (isDiscrete value)) (.inl enough)]
    exact decoded value
  constructor
  · exact parsed
  · intro text value ok
    rcases bind_eq_ok.mp ok with ⟨form, isRead, isDecoded⟩
    refine ⟨form, read_of_readFor isRead, fun below => ⟨value, ?_, rfl⟩⟩
    exact parsed value (Nat.le_trans (adds isDecoded) below)

end JsonForm

/-- All values that are exchanged are read back from their texts, and a source
map that was saved and loaded answers every lookup as before. -/
theorem exchange_roundTrips :
    JsonForm.RoundTrips TemplateFile ∧
    JsonForm.RoundTrips Declaration ∧
    JsonForm.RoundTrips StyleProperty ∧
    JsonForm.RoundTrips Node ∧
    JsonForm.RoundTrips Attribute ∧
    JsonForm.RoundTrips Expression ∧
    JsonForm.RoundTrips Span ∧
    JsonForm.RoundTrips Position ∧
    JsonForm.RoundTrips SourceMap ∧
    JsonForm.RoundTrips Settings ∧
    ∀ map : SourceMap, ∃ loaded : SourceMap,
      JsonForm.parse (JsonForm.print map) = .ok loaded ∧
      ∀ position,
        loaded.toGenerated? position = map.toGenerated? position ∧
        loaded.toSource? position = map.toSource? position ∧
        loaded.atSource? position = map.atSource? position ∧
        loaded.atGenerated? position = map.atGenerated? position := by
  have maps : JsonForm.RoundTrips SourceMap :=
    JsonForm.roundTrips SourceMap.discrete_encode SourceMap.decode_encode
      SourceMap.addsOneLevel
  refine ⟨?_, ?_, ?_, ?_, ?_, ?_, ?_, ?_, maps, ?_, ?_⟩
  · exact JsonForm.roundTrips TemplateFile.discrete_encode
      TemplateFile.decode_encode TemplateFile.addsOneLevel
  · exact JsonForm.roundTrips Declaration.discrete_encode
      Declaration.decode_encode Declaration.addsOneLevel
  · exact JsonForm.roundTrips StyleProperty.discrete_encode
      (StyleProperty.decode_encode false) (StyleProperty.addsOneLevel false)
  · exact JsonForm.roundTrips Node.discrete_encode (Node.decode_encode false)
      (Node.addsOneLevel false)
  · exact JsonForm.roundTrips Attribute.discrete_encode
      (Attribute.decode_encode false) (Attribute.addsOneLevel false)
  · exact JsonForm.roundTrips Expression.discrete_encode
      Expression.decode_encode Expression.addsOneLevel
  · exact JsonForm.roundTrips Span.discrete_encode Span.decode_encode
      Span.addsOneLevel
  · exact JsonForm.roundTrips Position.discrete_encode Position.decode_encode
      Position.addsOneLevel
  · exact JsonForm.roundTrips Settings.discrete_encode Settings.decode_encode
      Settings.addsOneLevel
  · intro map
    have enough : map.encode.levels ≤ levelLimit :=
      Nat.le_trans map.levels_encode_le (by decide)
    refine ⟨map, maps.parse_print map enough, ?_⟩
    intro position
    exact ⟨rfl, rfl, rfl, rfl⟩

/-- An element without its empty lists: what is printed for it has one level
more and is read again. -/
theorem short_element_round_trips :
    (JsonForm.parse
        "\x7b\"type\":\"element\",\"name\":\"br\",\"void\":true\x7d" :
        Except JsonFault Node) = .ok (.element "br" true [] []) ∧
    (JsonForm.parse (JsonForm.print (Node.element "br" true [] [])) :
        Except JsonFault Node) = .ok (.element "br" true [] []) ∧
    ∃ again : Node,
      JsonForm.parse (JsonForm.print (Node.element "br" true [] [])) =
        .ok again ∧
      JsonForm.print again = JsonForm.print (Node.element "br" true [] []) := by
  rcases exchange_roundTrips with ⟨_, _, _, nodes, _⟩
  have isText : IsTextOf
      (.object
        [("type", .text "element"), ("name", .text "br"),
          ("void", .boolean true)])
      "\x7b\"type\":\"element\",\"name\":\"br\",\"void\":true\x7d" :=
    isTextOf_print rfl
  have accepted : (JsonForm.parse
      "\x7b\"type\":\"element\",\"name\":\"br\",\"void\":true\x7d" :
      Except JsonFault Node) = .ok (.element "br" true [] []) := by
    rw [JsonForm.parse, readFor_textOf isText (.inl (by decide))]
    rfl
  refine ⟨accepted, nodes.parse_print _ (by decide), ?_⟩
  rcases nodes.print_parse _ _ accepted with ⟨form, isRead, again⟩
  cases isRead.symm.trans (read_textOf isText)
  exact again (by decide)

end Templating

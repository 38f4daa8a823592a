import Templating.Proofs.Form.Exchange
import Templating.Proofs.Json.Respelling

/-!
# Every spelling of a value is decoded to it

The records of templates and source maps may be spelled in many ways, and every
sound spelling is decoded to the value it is a spelling of.  A spelling with a
missing or a repeated field in one of its objects is refused for its shape.

Both follow the nesting of the records: a decoder asks for the fields of one
record, and what it finds are spellings with fewer levels.
-/

namespace Templating

open Json

/-- The fields that may be left out: imports and declarations of a file,
attributes and children of an element, and the branches that a node need not
have. -/
def absentFields : Defaults
  | none, "imports" => some (.array [])
  | none, "declarations" => some (.array [])
  | some "element", "attributes" => some (.array [])
  | some "element", "children" => some (.array [])
  | some "if", "else_branch" => some .null
  | some "switch", "default" => some .null
  | _, _ => none

variable {levels : Nat}

/-! ## Positions and source maps -/

namespace Position

theorem decodesBelow (position : Position) :
    DecodesBelow absentFields levels decode position.encode position := by
  intro sound form spelled _
  refine (spelled.offers rfl (by simp)).bind ?_
  rintro chosen ⟨_, _, index, ⟨_, _, line, ⟨_, _, column, rfl, rfl⟩, rfl⟩, rfl⟩
  refine index.required rfl (decodesBelow_integer _) ?_
  refine line.required rfl (decodesBelow_integer _) ?_
  exact column.required rfl (decodesBelow_integer _) rfl

end Position

namespace Span

theorem decodesBelow (span : Span) :
    DecodesBelow absentFields levels decode span.encode span := by
  intro sound form spelled _
  exact (spelled.offers rfl (by simp)).pair rfl span.start.decodesBelow rfl
    span.stop.decodesBelow rfl

end Span

namespace Expression

theorem decodesBelow (expression : Expression) :
    DecodesBelow absentFields levels decode expression.encode expression := by
  intro sound form spelled _
  exact (spelled.offers rfl (by simp)).pair rfl (decodesBelow_text _) rfl
    expression.span.decodesBelow rfl

end Expression

namespace Mapping

theorem decodesBelow (mapping : Mapping) :
    DecodesBelow absentFields levels decode mapping.encode mapping := by
  intro sound form spelled _
  exact (spelled.offers rfl (by simp)).pair rfl mapping.source.decodesBelow rfl
    mapping.generated.decodesBelow rfl

end Mapping

namespace SourceMap

theorem decodesBelow (map : SourceMap) :
    DecodesBelow absentFields levels decode map.encode map := by
  intro sound form spelled _
  exact (spelled.offers rfl (by simp)).single rfl
    (decodesBelow_list fun mapping _ => Mapping.decodesBelow mapping) rfl

end SourceMap

/-! ## Attributes and style properties -/

namespace Attribute

theorem decodesBelow (inside : Bool) (item : Attribute) :
    DecodesBelow absentFields levels (decode inside) item.encode item := by
  intro sound form spelled _
  have isDiscrete := item.discrete_encode
  cases item with
  | constant name value =>
      refine tagged_bind spelled isDiscrete rfl (by decide) (by simp) ?_
      intro sound content offers _
      exact offers.pair rfl (decodesBelow_text _) rfl (decodesBelow_text _) rfl
  | flag name =>
      refine tagged_bind spelled isDiscrete rfl (by decide) (by simp) ?_
      intro sound content offers _
      exact offers.single rfl (decodesBelow_text _) rfl
  | computed name value =>
      refine tagged_bind spelled isDiscrete rfl (by decide) (by simp) ?_
      intro sound content offers _
      exact offers.pair rfl (decodesBelow_text _) rfl value.decodesBelow rfl
  | conditional name condition =>
      refine tagged_bind spelled isDiscrete rfl (by decide) (by simp) ?_
      intro sound content offers _
      exact offers.pair rfl (decodesBelow_text _) rfl condition.decodesBelow rfl

end Attribute

namespace StyleProperty

theorem decodesBelow (inside : Bool) (property : StyleProperty) :
    DecodesBelow absentFields levels (decode inside) property.encode property := by
  intro sound form spelled _
  have isDiscrete := property.discrete_encode
  cases property with
  | constant name value =>
      refine tagged_bind spelled isDiscrete rfl (by decide) (by simp) ?_
      intro sound content offers _
      exact offers.pair rfl (decodesBelow_text _) rfl (decodesBelow_text _) rfl
  | computed name value =>
      refine tagged_bind spelled isDiscrete rfl (by decide) (by simp) ?_
      intro sound content offers _
      exact offers.pair rfl (decodesBelow_text _) rfl value.decodesBelow rfl

end StyleProperty

/-! ## Nodes -/

namespace Node

theorem array_encodeAll_eq_nil {nodes : List Node}
    (same : Json.array (encodeAll nodes) = .array []) : nodes = [] := by
  cases nodes with
  | nil => rfl
  | cons node rest =>
      rw [encodeAll] at same
      cases same

theorem encodeBranch_eq_null {branch : Option (List Node)}
    (same : encodeBranch branch = .null) : branch = none := by
  cases branch with
  | none => rfl
  | some nodes =>
      rw [encodeBranch] at same
      cases same

mutual

/-- By recursion on the node, one case for each kind.  What is found in the form
of a node has fewer levels than the form, so the levels that are left for the
nodes inside are enough. -/
theorem decodeWithin_respelled (node : Node) {levels : Nat}
    {inside sound : Bool} {form : Json}
    (spelled : Respelled absentFields sound node.encode form)
    (enough : form.levels < levels) :
    decodeWithin levels inside form = outcome sound node := by
  rcases levels with _ | levels
  · cases enough
  have isDiscrete := node.discrete_encode
  match node with
  | .docType value =>
      rw [encode] at spelled isDiscrete
      refine tagged_bind spelled isDiscrete rfl (by decide) (by simp) ?_
      intro sound content offers _
      exact offers.single rfl (decodesBelow_text _) rfl
  | .element name isVoid attributes children =>
      rw [encode] at spelled isDiscrete
      refine tagged_bind spelled isDiscrete rfl (by decide) (by simp) ?_
      intro sound content offers within
      have nodes := (decodesBelow_all children levels).mono
        (Nat.le_trans within (Nat.le_of_lt enough))
      refine offers.bind ?_
      rintro chosen ⟨_, _, named, ⟨_, _, void, ⟨_, _, attributed,
        ⟨_, _, inner, rfl, rfl⟩, rfl⟩, rfl⟩, rfl⟩
      refine named.required rfl (decodesBelow_text _) ?_
      refine void.required rfl (decodesBelow_boolean _) ?_
      refine attributed.optional rfl (by simp)
        (decodesBelow_list fun item _ => item.decodesBelow true) ?_
      exact inner.optional rfl array_encodeAll_eq_nil nodes rfl
  | .text value =>
      rw [encode] at spelled isDiscrete
      refine tagged_bind spelled isDiscrete rfl (by decide) (by simp) ?_
      intro sound content offers _
      exact offers.single rfl (decodesBelow_text _) rfl
  | .whitespace value =>
      rw [encode] at spelled isDiscrete
      refine tagged_bind spelled isDiscrete rfl (by decide) (by simp) ?_
      intro sound content offers _
      exact offers.single rfl (decodesBelow_text _) rfl
  | .interpolation value =>
      rw [encode] at spelled isDiscrete
      refine tagged_bind spelled isDiscrete rfl (by decide) (by simp) ?_
      intro sound content offers _
      exact offers.single rfl value.decodesBelow rfl
  | .loop header body =>
      rw [encode] at spelled isDiscrete
      refine tagged_bind spelled isDiscrete rfl (by decide) (by simp) ?_
      intro sound content offers within
      have nodes := (decodesBelow_all body levels).mono
        (Nat.le_trans within (Nat.le_of_lt enough))
      exact offers.pair rfl header.decodesBelow rfl nodes rfl
  | .conditional condition thenBranch elseBranch =>
      rw [encode] at spelled isDiscrete
      refine tagged_bind spelled isDiscrete rfl (by decide) (by simp) ?_
      intro sound content offers within
      have nodes := (decodesBelow_all thenBranch levels).mono
        (Nat.le_trans within (Nat.le_of_lt enough))
      have branch := (decodesBelow_branch elseBranch levels).mono
        (Nat.le_trans within (Nat.le_of_lt enough))
      refine offers.bind ?_
      rintro chosen ⟨_, _, tested, ⟨_, _, first, ⟨_, _, second, rfl, rfl⟩, rfl⟩,
        rfl⟩
      refine tested.required rfl condition.decodesBelow ?_
      refine first.required rfl nodes ?_
      exact second.optional rfl encodeBranch_eq_null branch rfl
  | .choice subject cases fallback =>
      rw [encode] at spelled isDiscrete
      refine tagged_bind spelled isDiscrete rfl (by decide) (by simp) ?_
      intro sound content offers within
      have each := (decodesBelow_cases cases levels).mono
        (Nat.le_trans within (Nat.le_of_lt enough))
      have branch := (decodesBelow_branch fallback levels).mono
        (Nat.le_trans within (Nat.le_of_lt enough))
      refine offers.bind ?_
      rintro chosen ⟨_, _, tested, ⟨_, _, listed, ⟨_, _, other, rfl, rfl⟩, rfl⟩,
        rfl⟩
      refine tested.required rfl subject.decodesBelow ?_
      refine listed.required rfl each ?_
      exact other.optional rfl encodeBranch_eq_null branch rfl
  | .call component =>
      rw [encode] at spelled isDiscrete
      refine tagged_bind spelled isDiscrete rfl (by decide) (by simp) ?_
      intro sound content offers _
      exact offers.single rfl component.decodesBelow rfl

theorem decodesBelow_all (nodes : List Node) (levels : Nat) :
    DecodesBelow absentFields (levels + 1) (decodeList (decodeWithin levels true))
      (.array (encodeAll nodes)) nodes := by
  match nodes with
  | [] =>
      rw [encodeAll]
      exact decodesBelow_nil
  | node :: rest =>
      rw [encodeAll]
      refine decodesBelow_cons ?_ (decodesBelow_all rest levels)
      intro sound form spelled below
      exact decodeWithin_respelled node spelled below

theorem decodesBelow_branch (branch : Option (List Node)) (levels : Nat) :
    DecodesBelow absentFields (levels + 1)
      (decodeOption (decodeList (decodeWithin levels true)))
      (encodeBranch branch) branch := by
  match branch with
  | none =>
      rw [encodeBranch]
      intro sound form spelled _
      cases spelled
      rfl
  | some nodes =>
      rw [encodeBranch]
      intro sound form spelled below
      have decoded := decodesBelow_all nodes levels spelled below
      have isList : form ≠ .null := by
        rintro rfl
        cases spelled
      rw [decodeOption, decoded]
      · cases sound <;> rfl
      · exact isList

theorem decodesBelow_cases (cases : List (Expression × List Node))
    (levels : Nat) :
    DecodesBelow absentFields (levels + 1)
      (decodeList (decodeCase (decodeWithin levels true)))
      (.array (encodeCases cases)) cases := by
  match cases with
  | [] =>
      rw [encodeCases]
      exact decodesBelow_nil
  | (pattern, body) :: rest =>
      rw [encodeCases]
      refine decodesBelow_cons ?_ (decodesBelow_cases rest levels)
      intro sound form spelled below
      refine (spelled.offers rfl (by simp)).pair rfl pattern.decodesBelow rfl
        ((decodesBelow_all body levels).mono ?_) rfl
      omega

end

theorem decodesBelow (inside : Bool) (node : Node) :
    DecodesBelow absentFields levels (decode inside) node.encode node :=
  fun _ _ spelled _ => node.decodeWithin_respelled spelled (Nat.lt_succ_self _)

theorem decodesBelow_encodeAll (nodes : List Node) :
    DecodesBelow absentFields levels (decodeList (decode true))
      (.array (encodeAll nodes)) nodes := by
  rw [encodeAll_eq_map]
  exact decodesBelow_list fun node _ => node.decodesBelow true

end Node

/-! ## Files -/

namespace Declaration

theorem decodesBelow (declaration : Declaration) :
    DecodesBelow absentFields levels decode declaration.encode declaration := by
  intro sound form spelled _
  have isDiscrete := declaration.discrete_encode
  cases declaration with
  | html template =>
      refine tagged_bind spelled isDiscrete rfl (by decide) (by simp) ?_
      intro sound content offers _
      refine offers.bind ?_
      rintro chosen ⟨_, _, named, ⟨_, _, given, ⟨_, _, inner, rfl, rfl⟩, rfl⟩,
        rfl⟩
      refine named.required rfl template.name.decodesBelow ?_
      refine given.required rfl template.parameters.decodesBelow ?_
      exact inner.required rfl (Node.decodesBelow_encodeAll _) rfl
  | style template =>
      refine tagged_bind spelled isDiscrete rfl (by decide) (by simp) ?_
      intro sound content offers _
      refine offers.bind ?_
      rintro chosen ⟨_, _, named, ⟨_, _, given, ⟨_, _, inner, rfl, rfl⟩, rfl⟩,
        rfl⟩
      refine named.required rfl template.name.decodesBelow ?_
      refine given.required rfl template.parameters.decodesBelow ?_
      exact inner.required rfl
        (decodesBelow_list fun property _ => property.decodesBelow true) rfl
  | script template =>
      refine tagged_bind spelled isDiscrete rfl (by decide) (by simp) ?_
      intro sound content offers _
      refine offers.bind ?_
      rintro chosen ⟨_, _, named, ⟨_, _, given, ⟨_, _, inner, rfl, rfl⟩, rfl⟩,
        rfl⟩
      refine named.required rfl template.name.decodesBelow ?_
      refine given.required rfl template.parameters.decodesBelow ?_
      exact inner.required rfl (decodesBelow_text _) rfl

end Declaration

namespace TemplateFile

theorem decodesBelow (file : TemplateFile) :
    DecodesBelow absentFields levels decode file.encode file := by
  intro sound form spelled _
  refine (spelled.offers rfl (by simp)).bind ?_
  rintro chosen ⟨_, _, package, ⟨_, _, imported, ⟨_, _, declared, rfl, rfl⟩,
    rfl⟩, rfl⟩
  refine package.required rfl file.package.decodesBelow ?_
  refine imported.optional rfl (by simp)
    (decodesBelow_list fun path _ => path.decodesBelow) ?_
  exact declared.optional rfl (by simp)
    (decodesBelow_list fun declaration _ => declaration.decodesBelow) rfl

end TemplateFile

/-! ## Some spellings -/

/-- The array of two arrays of counters. -/
theorem Span.respelled_listed (span : Span) :
    Respelled absentFields true span.encode
      (.array ([span.start, span.stop].map fun position => .array
        ([position.index, position.line, position.column].map fun counter =>
          .integer (.ofUInt32 counter)))) := by
  have listed : ∀ position : Position,
      Respelled absentFields true position.encode (.array
        ([position.index, position.line, position.column].map fun counter =>
          .integer (.ofUInt32 counter))) := by
    intro position
    refine .listed (List.append_nil _).symm rfl ?_ (by simp)
    exact itemsRespelled_self absentFields _ rfl
  refine .listed (List.append_nil _).symm rfl ?_ (by simp)
  exact .cons (listed span.start) (.cons (listed span.stop) .nil)

/-- An element with its fields in another order, without its empty lists and
with one more field. -/
theorem Node.respelled_element (name : String) (isVoid : Bool) :
    Respelled absentFields true (encode (.element name isVoid [] []))
      (.object
        [("new", .array [.null]), ("void", .boolean isVoid),
          ("name", .text name), ("type", .text "element")]) := by
  have kept : FieldsRespelled absentFields (some "element") true
      [("type", .text "element"), ("name", .text name),
        ("void", .boolean isVoid), ("attributes", .array []),
        ("children", .array [])]
      [("type", .text "element"), ("name", .text name),
        ("void", .boolean isVoid)] := by
    refine .kept (.text _) (.kept (.text _) (.kept (.boolean _) ?_))
    exact .omitted rfl (.omitted rfl .nil)
  have reordered := List.reverse_perm
    ([("type", Json.text "element"), ("name", .text name),
      ("void", .boolean isVoid)] ++ [("new", .array [.null])])
  rw [encode, encodeAll]
  exact .object (.fields kept (by simp) rfl reordered)

/-- An element without its name. -/
theorem Node.respelled_nameless (name : String) (isVoid : Bool) :
    Respelled absentFields false (encode (.element name isVoid [] []))
      (.object [("type", .text "element"), ("void", .boolean isVoid)]) := by
  have rest : FieldsRespelled absentFields (some "element") true
      [("void", .boolean isVoid), ("attributes", .array []),
        ("children", .array [])]
      [("void", .boolean isVoid)] :=
    .kept (.boolean _) (.omitted rfl (.omitted rfl .nil))
  have unchanged : [("type", Json.text "element"), ("void", .boolean isVoid)].Perm
      ([("type", Json.text "element"), ("void", .boolean isVoid)] ++ []) := by
    rw [List.append_nil]
  rw [encode, encodeAll]
  exact .object (.fields (.kept (.text _) (.deleted rfl rest)) (by simp) rfl
    unchanged)

/-! ## Texts -/

namespace JsonForm

/-- A value is read from every text of every sound spelling of it, and texts of
faulty spellings are refused for their shape, as long as the reader allows the
levels of the spelling. -/
structure AcceptsSpellings (α : Type) [JsonForm α] : Prop where
  parse_sound : ∀ (value : α) (form : Json) (text : String),
    Respelled absentFields true (encode value) form →
      form.levels ≤ levelLimit → IsTextOf form text →
        parse text = .ok value
  parse_faulty : ∀ (value : α) (form : Json) (text : String),
    Respelled absentFields false (encode value) form →
      form.levels ≤ levelLimit → IsTextOf form text →
        (parse text : Except JsonFault α) = .error .mismatched

theorem acceptsSpellings {α : Type} [JsonForm α]
    (decodes : ∀ (value : α) (levels : Nat),
      DecodesBelow absentFields levels decode (encode value) value) :
    AcceptsSpellings α := by
  have parsed : ∀ (value : α) {sound : Bool} {form : Json} {text : String},
      Respelled absentFields sound (encode value) form →
        form.levels ≤ levelLimit → IsTextOf form text →
          parse text = outcome sound value := by
    intro value sound form text spelled enough isText
    rw [parse, readFor_textOf isText (.inl enough)]
    exact decodes value (form.levels + 1) spelled (Nat.lt_succ_self _)
  constructor
  · intro value form text spelled enough isText
    exact parsed value spelled enough isText
  · intro value form text spelled enough isText
    exact parsed value spelled enough isText

end JsonForm

/-- The spellings of all values of templates and source maps are accepted. -/
theorem exchange_acceptsSpellings :
    JsonForm.AcceptsSpellings TemplateFile ∧
    JsonForm.AcceptsSpellings Declaration ∧
    JsonForm.AcceptsSpellings StyleProperty ∧
    JsonForm.AcceptsSpellings Node ∧
    JsonForm.AcceptsSpellings Attribute ∧
    JsonForm.AcceptsSpellings Expression ∧
    JsonForm.AcceptsSpellings Span ∧
    JsonForm.AcceptsSpellings Position ∧
    JsonForm.AcceptsSpellings SourceMap := by
  refine ⟨?_, ?_, ?_, ?_, ?_, ?_, ?_, ?_, ?_⟩
  · exact JsonForm.acceptsSpellings fun file _ => file.decodesBelow
  · exact JsonForm.acceptsSpellings fun declaration _ =>
      declaration.decodesBelow
  · exact JsonForm.acceptsSpellings fun property _ =>
      property.decodesBelow false
  · exact JsonForm.acceptsSpellings fun node _ => node.decodesBelow false
  · exact JsonForm.acceptsSpellings fun item _ => item.decodesBelow false
  · exact JsonForm.acceptsSpellings fun expression _ => expression.decodesBelow
  · exact JsonForm.acceptsSpellings fun span _ => span.decodesBelow
  · exact JsonForm.acceptsSpellings fun position _ => position.decodesBelow
  · exact JsonForm.acceptsSpellings fun map _ => map.decodesBelow

/-- A span as an array, an element in an unusual spelling and one without a
name. -/
theorem unusual_spellings_accepted :
    (JsonForm.parse "[[0,0,0],[1,0,1]]" : Except JsonFault Span) =
      .ok ⟨⟨0, 0, 0⟩, ⟨1, 0, 1⟩⟩ ∧
    (JsonForm.parse
        "\x7b \"new\":[null],\"void\":true,\"name\":\"\\u0070\",\"type\":\"element\"\x7d" :
        Except JsonFault Node) = .ok (.element "p" true [] []) ∧
    (JsonForm.parse "\x7b\"type\":\"element\",\"void\":true\x7d" :
        Except JsonFault Node) = .error .mismatched := by
  rcases exchange_acceptsSpellings with ⟨_, _, _, nodes, _, _, spans, _⟩
  refine ⟨?_, ?_, ?_⟩
  · exact spans.parse_sound _ _ _ (Span.respelled_listed _) (by decide)
      (isTextOf_print rfl)
  · have blank : IsBlank [' '] := by
      intro character member
      rw [List.mem_singleton.mp member]
      rfl
    have escaped : SpellsText "p".toList "\\u0070".toList :=
      .cons (.unit rfl) .nil
    have spelled : FieldWrittenAs ("name", .text "p")
        "\"name\":\"\\u0070\"".toList :=
      .field (spellsText_flatMap_writtenChar "name".toList) isBlank_nil
        isBlank_nil (.text escaped)
    have content := WrittenAs.object blank
      (fieldWrittenAs_written "new" (writtenAs_written (.array [.null]) rfl))
      (.next isBlank_nil isBlank_nil
        (fieldWrittenAs_written "void" (writtenAs_written (.boolean true) rfl))
        (.next isBlank_nil isBlank_nil spelled
          (.next isBlank_nil isBlank_nil
            (fieldWrittenAs_written "type"
              (writtenAs_written (.text "element") rfl))
            (.close isBlank_nil))))
    exact nodes.parse_sound _ _ _ (Node.respelled_element "p" true) (by decide)
      ⟨[], _, [], isBlank_nil, content, isBlank_nil, rfl⟩
  · exact nodes.parse_faulty _ _ _ (Node.respelled_nameless "p" true)
      (by decide) (isTextOf_print rfl)

end Templating

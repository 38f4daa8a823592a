import Templating.Proofs.Code.Mappings

/-!
# Completeness of the source map

The source map of a generated file has one mapping for every expression of the
template, in the order in which their copies stand in the code.  As long as
positions in the code fit into 32 bits, the span of a mapping is the place of
that copy to the byte, the line and the column.
-/

namespace Templating

open Code

/-- The mapping belongs to the expression and covers one copy of it in the
code: nothing but the copy, between the positions that reading the code up to
its two ends leads to. -/
structure Mapping.Exact (code : String) (expression : Expression)
    (mapping : Mapping) : Prop where
  source : mapping.source = expression.span
  covered :
    ((Text.bytes code).drop mapping.generated.start.index.toNat).take
        (mapping.generated.stop.index.toNat -
          mapping.generated.start.index.toNat) =
      Text.bytes expression.value
  ends : ∃ before after, code = before ++ expression.value ++ after ∧
    mapping.generated.start.cursor = .reached before ∧
    mapping.generated.stop.cursor = .reached (before ++ expression.value)

/-- In a code that is short enough, a recorded copy is where it is said to
be. -/
theorem Mapping.Exact.of_copied {code : String} {expression : Expression}
    {mapping : Mapping} (small : code.utf8ByteSize < UInt32.size)
    (copied : Copied code expression mapping) :
    mapping.Exact code expression := by
  rcases copied with ⟨source, before, after, rfl, generated⟩
  simp only [String.utf8ByteSize_append] at small
  have start : mapping.generated.start.cursor = .reached before := by
    rw [generated]
    apply Position.cursor_advance_origin
    omega
  have stop : mapping.generated.stop.cursor =
      .reached (before ++ expression.value) := by
    rw [generated]
    show ((Position.origin.advance before).advance expression.value).cursor = _
    rw [← Position.advance_append]
    apply Position.cursor_advance_origin
    rw [String.utf8ByteSize_append]
    omega
  refine ⟨source, ?_, before, after, rfl, start, stop⟩
  have first : mapping.generated.start.index.toNat = before.utf8ByteSize :=
    congrArg Cursor.index start
  have last : mapping.generated.stop.index.toNat =
      before.utf8ByteSize + expression.value.utf8ByteSize := by
    rw [← String.utf8ByteSize_append]
    exact congrArg Cursor.index stop
  rw [first, last, Nat.add_sub_cancel_left, Text.bytes_append,
    Text.bytes_append, List.append_assoc, ← Text.length_bytes before,
    List.drop_left, ← Text.length_bytes expression.value, List.take_left]

/-- The mappings of a generated file are those of its expressions, each once
and each exact, and their copies stand apart from each other. -/
theorem generate_mappings_exact {file : TemplateFile} {settings : Settings}
    {generated : Generated} (ok : generate file settings = .ok generated)
    (small : generated.code.utf8ByteSize < UInt32.size) :
    (generated.map.mappings.toList.map Mapping.source).Perm
        (file.expressions.map Expression.span) ∧
      (∃ emitted : List Expression, emitted.Perm file.expressions ∧
        List.Forall₂ (fun expression mapping =>
            mapping.Exact generated.code expression)
          emitted generated.map.mappings.toList) ∧
      generated.map.mappings.toList.Pairwise fun first second =>
        first.generated.stop.index < second.generated.start.index := by
  rcases exists_copies ok with ⟨emitted, complete, copied⟩
  have exact : List.Forall₂ (fun expression mapping =>
      mapping.Exact generated.code expression)
        emitted generated.map.mappings.toList :=
    copied.imp fun _ _ copied => .of_copied small copied
  have sources : generated.map.mappings.toList.map Mapping.source =
      emitted.map Expression.span := by
    rw [← List.forall₂_eq_eq_eq, List.forall₂_map_left_iff,
      List.forall₂_map_right_iff]
    exact exact.flip.imp fun _ _ own => own.source
  refine ⟨?_, ⟨emitted, complete, exact⟩, pairwise_mappings ok small⟩
  rw [sources]
  exact complete.map Expression.span

/-- A small page: the scripts and classes of the element are prepared before
its other attributes, and one expression is written twice. -/
def greeting : TemplateFile where
  package := ⟨"page", .ofText ⟨8, 0, 8⟩ "page"⟩
  imports := [⟨"std::fmt", .ofText ⟨20, 1, 4⟩ "std::fmt"⟩]
  declarations := [.html
    { name := ⟨"greeting", .ofText ⟨40, 3, 5⟩ "greeting"⟩
      parameters := ⟨"name: &str", .ofText ⟨50, 3, 15⟩ "name: &str"⟩
      children := [.element "p" false
        [.computed "title" ⟨"name", .ofText ⟨70, 4, 10⟩ "name"⟩,
          .computed "class" ⟨"(red(),\n big())", .ofText ⟨85, 4, 25⟩
            "(red(),\n big())"⟩,
          .computed "onclick" ⟨"hide()", .ofText ⟨110, 5, 20⟩ "hide()"⟩]
        [.interpolation ⟨"name", .ofText ⟨130, 6, 4⟩ "name"⟩]] }]

/-- The greeting is generated, and its code is small. -/
theorem exists_generate_greeting :
    ∃ generated, generate greeting default = .ok generated ∧
      generated.code.utf8ByteSize < UInt32.size := by
  apply exists_generate_of_accepted
  · rfl
  · decide +kernel

theorem greeting_mappings_exact :
    ∃ generated, generate greeting default = .ok generated ∧
      generated.code.utf8ByteSize < UInt32.size ∧
      (generated.map.mappings.toList.map Mapping.source).Perm
        (greeting.expressions.map Expression.span) := by
  rcases exists_generate_greeting with ⟨generated, ok, small⟩
  exact ⟨generated, ok, small, (generate_mappings_exact ok small).1⟩

end Templating

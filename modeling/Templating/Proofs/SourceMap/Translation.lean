import Templating.Proofs.SourceMap.Completeness
import Templating.Proofs.SourceMap.Lookup

/-!
# Translation of positions

Positions are translated between a template and its generated code by way of
the copies of expressions.  Every place in a copy leads back to the same place
in the template.  A place in the template leads to the copy of the expression
that is found there, so it comes back as long as it lies on the text of that
expression.
-/

namespace Templating

open Code

/-- The span of the expression is what its text occupies, and no counter stops
at its largest value on the way. -/
def Expression.Consistent (expression : Expression) : Prop :=
  expression.span.stop = expression.span.start.advance expression.value ∧
    expression.span.start.cursor.FitsAlong expression.value.toList

namespace SourceMap

/-- No counter wraps when the generated position is translated. -/
def BoundedFromGenerated (map : SourceMap) (position : Position) : Prop :=
  ∀ mapping, map.atGenerated? position = some mapping →
    position.Relocatable mapping.generated.start mapping.source.start

/-- No counter wraps when the template position is translated. -/
def BoundedFromSource (map : SourceMap) (position : Position) : Prop :=
  ∀ mapping, map.atSource? position = some mapping →
    position.Relocatable mapping.source.start mapping.generated.start

end SourceMap

section Spans

variable {start : Position} {before after : String}
  (fits : start.cursor.FitsAlong (before ++ after).toList)

include fits

theorem fitsAlong_before : start.cursor.FitsAlong before.toList := by
  rw [String.toList_append] at fits
  exact fits.part

/-- A span has every place on its text. -/
theorem contains_ofText :
    (Span.ofText start (before ++ after)).contains (start.advance before) =
      true := by
  have reached := congrArg Cursor.index
    (Position.cursor_advance (fitsAlong_before fits))
  have ends := congrArg Cursor.index (Position.cursor_advance fits)
  rw [Cursor.advance_index] at reached ends
  rw [String.toList_append, byteCount_append] at ends
  simp only [Position.cursor] at reached ends
  simp only [Span.contains, Span.ofText, Bool.and_eq_true, decide_eq_true_eq,
    UInt32.le_iff_toNat_le]
  omega

end Spans

/-- What is known of a mapping: where the expression and its copy start, both
with room for the text of the expression. -/
structure Mapping.Faithful (expression : Expression) (mapping : Mapping) :
    Prop where
  source : mapping.source = .ofText expression.span.start expression.value
  generated :
    mapping.generated = .ofText mapping.generated.start expression.value
  sourceFits : mapping.source.start.cursor.FitsAlong expression.value.toList
  generatedFits :
    mapping.generated.start.cursor.FitsAlong expression.value.toList

theorem Mapping.Faithful.of_copied {code : String} {expression : Expression}
    {mapping : Mapping} (small : code.utf8ByteSize < UInt32.size)
    (consistent : expression.Consistent)
    (copied : Copied code expression mapping) :
    mapping.Faithful expression := by
  rcases copied with ⟨source, before, after, rfl, generated⟩
  rcases consistent with ⟨stop, fits⟩
  refine ⟨?_, ?_, ?_, ?_⟩
  · rw [source, Span.ofText, ← stop]
  · rw [generated]
    rfl
  · rw [source]
    exact fits
  · rw [generated]
    intro part isPrefix
    have whole : Cursor.origin.FitsAlong (before ++ expression.value).toList := by
      apply Cursor.fitsAlong_origin
      simp only [String.utf8ByteSize_append] at small
      rw [byteCount_toList, String.utf8ByteSize_append]
      omega
    rw [String.toList_append] at whole
    have start : (Position.origin.advance before).cursor =
        Cursor.origin.advance before.toList :=
      Position.cursor_advance whole.part
    show ((Position.origin.advance before).cursor.advance part).Fits
    rw [start, ← Cursor.advance_append]
    exact whole _ ((List.prefix_append_right_inj before.toList).mpr isPrefix)

/-- A list of mappings that are faithful to expressions and whose generated
spans stand apart from each other. -/
structure SourceMap.Faithful (emitted : List Expression) (map : SourceMap) :
    Prop where
  mappings : List.Forall₂ (fun expression mapping =>
    mapping.Faithful expression) emitted map.mappings.toList
  apart : map.mappings.toList.Pairwise fun first second =>
    first.generated.stop.index < second.generated.start.index

namespace SourceMap.Faithful

variable {emitted : List Expression} {map : SourceMap}
  (faithful : map.Faithful emitted) {place : Nat} {expression : Expression}
  {mapping : Mapping}

include faithful

theorem own (isEmitted : emitted[place]? = some expression)
    (found : map.mappings.toList[place]? = some mapping) :
    mapping.Faithful expression := by
  rcases List.getElem?_eq_some_iff.mp isEmitted with ⟨expressionBound, rfl⟩
  rcases List.getElem?_eq_some_iff.mp found with ⟨mappingBound, rfl⟩
  exact faithful.mappings.get expressionBound mappingBound

theorem start_le_stop (found : map.mappings.toList[place]? = some mapping) :
    mapping.generated.start.index ≤ mapping.generated.stop.index := by
  have bound := (List.getElem?_eq_some_iff.mp found).1
  rw [← faithful.mappings.length_eq] at bound
  have own := faithful.own (List.getElem?_eq_getElem bound) found
  have inside : mapping.generated.contains mapping.generated.start = true := by
    rw [own.generated]
    have fits : mapping.generated.start.cursor.FitsAlong
        ("" ++ emitted[place].value).toList := by
      rw [String.empty_append]
      exact own.generatedFits
    have first := contains_ofText fits
    rwa [String.empty_append, Position.advance_empty] at first
  simp only [Span.contains, Bool.and_eq_true, decide_eq_true_eq] at inside
  exact inside.2

theorem stop_lt_start {other : Nat} {otherMapping : Mapping}
    (found : map.mappings.toList[place]? = some mapping)
    (otherFound : map.mappings.toList[other]? = some otherMapping)
    (ordered : place < other) :
    mapping.generated.stop.index < otherMapping.generated.start.index := by
  rcases List.getElem?_eq_some_iff.mp found with ⟨bound, rfl⟩
  rcases List.getElem?_eq_some_iff.mp otherFound with ⟨otherBound, rfl⟩
  exact List.pairwise_iff_getElem.mp faithful.apart place other bound
    otherBound ordered

variable (isEmitted : emitted[place]? = some expression)
  (found : map.mappings.toList[place]? = some mapping)
  {before after : String} (split : expression.value = before ++ after)

include isEmitted found split

/-- A place in a copy is found in the mapping of that copy: the spans of other
copies do not reach it, their ends included. -/
theorem atGenerated?_advance :
    map.atGenerated? (mapping.generated.start.advance before) =
      some mapping := by
  have own := faithful.own isEmitted found
  have inside : mapping.generated.contains
      (mapping.generated.start.advance before) = true := by
    rw [own.generated, split]
    exact contains_ofText (split ▸ own.generatedFits)
  have bounds := inside
  simp only [Span.contains, Bool.and_eq_true, decide_eq_true_eq] at bounds
  rcases bounds with ⟨behindStart, beforeStop⟩
  apply atGenerated?_eq_some found inside
  · intro other otherMapping ahead otherFound
    have gap := faithful.stop_lt_start otherFound found ahead
    exact UInt32.lt_of_lt_of_le gap behindStart
  · intro other otherMapping behind otherFound
    have gap := faithful.stop_lt_start found otherFound behind
    have ordered := faithful.start_le_stop otherFound
    exact UInt32.le_of_lt (UInt32.lt_of_lt_of_le
      (UInt32.lt_of_le_of_lt beforeStop gap) ordered)

/-- Every place in a copy leads back to the template. -/
theorem toSource?_advance :
    map.toSource? (mapping.generated.start.advance before) =
        some (expression.span.start.advance before) ∧
      map.BoundedFromGenerated (mapping.generated.start.advance before) := by
  have own := faithful.own isEmitted found
  have inMap := faithful.atGenerated?_advance isEmitted found split
  have start : mapping.source.start = expression.span.start := by
    rw [own.source]
    rfl
  have sourceFits := fitsAlong_before (split ▸ own.sourceFits)
  have generatedFits := fitsAlong_before (split ▸ own.generatedFits)
  constructor
  · rw [toSource?, inMap, Option.map_some,
      Position.relocate_advance generatedFits sourceFits, start]
  · intro other isOther
    rw [inMap, Option.some.injEq] at isOther
    rw [← isOther]
    exact Position.relocatable_advance generatedFits sourceFits

/-- A place in an expression leads to its copy, if no mapping ahead of its own
has that place too. -/
theorem toGenerated?_advance
    (earlier : ∀ other otherMapping, other < place →
      map.mappings.toList[other]? = some otherMapping →
        otherMapping.source.contains (expression.span.start.advance before) =
          false) :
    map.toGenerated? (expression.span.start.advance before) =
        some (mapping.generated.start.advance before) ∧
      map.BoundedFromSource (expression.span.start.advance before) := by
  have own := faithful.own isEmitted found
  have start : mapping.source.start = expression.span.start := by
    rw [own.source]
    rfl
  have inside : mapping.source.contains
      (expression.span.start.advance before) = true := by
    rw [own.source, ← start, split]
    exact contains_ofText (split ▸ own.sourceFits)
  have inMap := atSource?_eq_some found inside earlier
  have sourceFits := fitsAlong_before (split ▸ own.sourceFits)
  have generatedFits := fitsAlong_before (split ▸ own.generatedFits)
  rw [← start] at inMap ⊢
  constructor
  · rw [toGenerated?, inMap, Option.map_some,
      Position.relocate_advance sourceFits generatedFits]
  · intro other isOther
    rw [inMap, Option.some.injEq] at isOther
    rw [← isOther]
    exact Position.relocatable_advance sourceFits generatedFits

end SourceMap.Faithful

/-- Positions are translated exactly in both directions, and no counter wraps
on the way. -/
structure SourceMap.Translates (emitted : List Expression) (map : SourceMap) :
    Prop where
  /-- Every place in a copy leads to the same place in the template. -/
  toSource : ∀ {place : Nat} {expression : Expression} {mapping : Mapping},
    emitted[place]? = some expression →
    map.mappings.toList[place]? = some mapping →
    ∀ before after, expression.value = before ++ after →
      map.toSource? (mapping.generated.start.advance before) =
          some (expression.span.start.advance before) ∧
        map.BoundedFromGenerated (mapping.generated.start.advance before)
  /-- A place in an expression that no other mapping has leads to the same
  place in the copy. -/
  toGenerated : ∀ {place : Nat} {expression : Expression} {mapping : Mapping},
    emitted[place]? = some expression →
    map.mappings.toList[place]? = some mapping →
    ∀ before after, expression.value = before ++ after →
      (∀ (other : Nat) (otherMapping : Mapping), other ≠ place →
        map.mappings.toList[other]? = some otherMapping →
        otherMapping.source.contains (expression.span.start.advance before) =
          false) →
      map.toGenerated? (expression.span.start.advance before) =
          some (mapping.generated.start.advance before) ∧
        map.BoundedFromSource (expression.span.start.advance before)
  /-- A position comes back if the first mapping that has it has it on the text
  of its expression. -/
  roundTrip : ∀ {place : Nat} {expression : Expression} {mapping : Mapping},
    emitted[place]? = some expression →
    map.mappings.toList[place]? = some mapping →
    ∀ position, mapping.source.contains position = true →
      (∀ (other : Nat) (otherMapping : Mapping), other < place →
        map.mappings.toList[other]? = some otherMapping →
        otherMapping.source.contains position = false) →
      (∃ before after, expression.value = before ++ after ∧
        position = mapping.source.start.advance before) →
      ∃ moved, map.toGenerated? position = some moved ∧
        map.BoundedFromSource position ∧
        map.toSource? moved = some position ∧
        map.BoundedFromGenerated moved

theorem SourceMap.Faithful.translates {emitted : List Expression}
    {map : SourceMap} (faithful : map.Faithful emitted) :
    map.Translates emitted := by
  constructor
  · intro place expression mapping isEmitted found before after split
    exact faithful.toSource?_advance isEmitted found split
  · intro place expression mapping isEmitted found before after split alone
    apply faithful.toGenerated?_advance isEmitted found split
    intro other otherMapping ahead
    exact alone other otherMapping (Nat.ne_of_lt ahead)
  · rintro place expression mapping isEmitted found position _ earlier
      ⟨before, after, split, rfl⟩
    have start : mapping.source.start = expression.span.start := by
      rw [(faithful.own isEmitted found).source]
      rfl
    rw [start] at earlier ⊢
    have forth := faithful.toGenerated?_advance isEmitted found split earlier
    have back := faithful.toSource?_advance isEmitted found split
    exact ⟨_, forth.1, forth.2, back.1, back.2⟩

/-- The source map of a generated file translates exactly, if the spans of the
file's expressions are what their texts occupy. -/
theorem generate_translates {file : TemplateFile} {settings : Settings}
    {generated : Generated} (ok : generate file settings = .ok generated)
    (small : generated.code.utf8ByteSize < UInt32.size)
    (consistent : ∀ expression ∈ file.expressions, expression.Consistent) :
    ∃ emitted : List Expression, emitted.Perm file.expressions ∧
      List.Forall₂ (fun expression mapping =>
          mapping.Exact generated.code expression)
        emitted generated.map.mappings.toList ∧
      generated.map.Translates emitted := by
  rcases exists_copies ok with ⟨emitted, complete, copied⟩
  have exact : List.Forall₂ (fun expression mapping =>
      mapping.Exact generated.code expression)
        emitted generated.map.mappings.toList :=
    copied.imp fun _ _ copied => .of_copied small copied
  have mappings : List.Forall₂ (fun expression mapping =>
      mapping.Faithful expression) emitted generated.map.mappings.toList := by
    have consistent : ∀ expression ∈ emitted, expression.Consistent := by
      intro expression member
      exact consistent expression (complete.mem_iff.mp member)
    have both := (List.forall₂_and_left _ _).mpr ⟨consistent, copied⟩
    exact both.imp fun _ _ both => .of_copied small both.1 both.2
  have faithful : generated.map.Faithful emitted :=
    ⟨mappings, pairwise_mappings ok small⟩
  exact ⟨emitted, complete, exact, faithful.translates⟩

theorem consistent_greeting :
    ∀ expression ∈ greeting.expressions, expression.Consistent := by
  have room : ∀ expression ∈ greeting.expressions,
      expression.span.stop =
          expression.span.start.advance expression.value ∧
        expression.span.start.cursor.HasRoom expression.value.toList := by
    decide +kernel
  intro expression member
  exact ⟨(room expression member).1, (room expression member).2.fitsAlong⟩

theorem greeting_translates :
    ∃ generated, generate greeting default = .ok generated ∧
      generated.code.utf8ByteSize < UInt32.size ∧
      (∀ expression ∈ greeting.expressions, expression.Consistent) ∧
      ∃ emitted : List Expression, emitted.Perm greeting.expressions ∧
        generated.map.Translates emitted := by
  rcases exists_generate_greeting with ⟨generated, ok, small⟩
  rcases generate_translates ok small consistent_greeting with
    ⟨emitted, complete, _, translates⟩
  exact ⟨generated, ok, small, consistent_greeting, emitted, complete,
    translates⟩

end Templating

import Mathlib.Data.List.Forall2
import Templating.Proofs.Code.Printing
import Templating.Proofs.Code.Separation
import Templating.Proofs.Position.Cursor

/-!
# Mappings of generated code

Mappings are recorded while a cursor is carried over the fragments.  So every
mapping spans the copy of its expression, and since the generator's own words
stand between two copies, the spans of the copies are apart from each other.
-/

namespace Templating.Code

theorem utf8ByteSize_fragmentsText (fragments : List Fragment) :
    (fragmentsText fragments).utf8ByteSize = fragments.foldr
      (fun fragment total => fragment.text.utf8ByteSize + total) 0 := by
  induction fragments with
  | nil => rfl
  | cons fragment rest inductionHypothesis =>
      rw [fragmentsText_cons, String.utf8ByteSize_append, inductionHypothesis]
      rfl

/-- Only expressions are recorded. -/
theorem mappingsFrom_cons {cursor : Position} {fragment : Fragment}
    {rest : List Fragment}
    (foreign : ∀ expression, fragment ≠ .copied expression) :
    mappingsFrom cursor (fragment :: rest) =
      mappingsFrom (cursor.advance fragment.text) rest := by
  cases fragment with
  | copied expression => exact absurd rfl (foreign expression)
  | words text | quoted text | verbatim text => simp only [mappingsFrom]

/-- The mapping belongs to the expression, and its generated span is where the
code holds a copy of the expression. -/
def Copied (code : String) (expression : Expression) (mapping : Mapping) :
    Prop :=
  mapping.source = expression.span ∧
    ∃ before after, code = before ++ expression.value ++ after ∧
      mapping.generated =
        Span.ofText (Position.origin.advance before) expression.value

theorem forall₂_mappingsFrom (before : String) (fragments : List Fragment) :
    List.Forall₂ (Copied (before ++ fragmentsText fragments))
      (copies fragments)
      (mappingsFrom (Position.origin.advance before) fragments) := by
  induction fragments generalizing before with
  | nil => exact .nil
  | cons fragment rest inductionHypothesis =>
      have later := inductionHypothesis (before ++ fragment.text)
      rw [Position.advance_append, String.append_assoc,
        ← fragmentsText_cons] at later
      cases fragment with
      | copied expression =>
          refine .cons ⟨rfl, before, fragmentsText rest, ?_, rfl⟩ later
          rw [fragmentsText_cons, String.append_assoc]
          rfl
      | words text | quoted text | verbatim text =>
          rw [mappingsFrom_cons (by simp)]
          exact later

/-- Mappings start no earlier than the cursor they are recorded from. -/
theorem start_mappingsFrom {before : String} {fragments : List Fragment}
    (small : (before ++ fragmentsText fragments).utf8ByteSize < UInt32.size)
    {mapping : Mapping}
    (member : mapping ∈
      mappingsFrom (Position.origin.advance before) fragments) :
    before.utf8ByteSize ≤ mapping.generated.start.index.toNat := by
  induction fragments generalizing before with
  | nil => simp [mappingsFrom] at member
  | cons fragment rest inductionHypothesis =>
      have whole : before ++ fragmentsText (fragment :: rest) =
          before ++ fragment.text ++ fragmentsText rest := by
        rw [fragmentsText_cons, String.append_assoc]
      have start : before.utf8ByteSize < UInt32.size := by
        rw [String.utf8ByteSize_append] at small
        omega
      have later (inRest : mapping ∈ mappingsFrom
          (Position.origin.advance (before ++ fragment.text)) rest) :
          before.utf8ByteSize ≤ mapping.generated.start.index.toNat := by
        have behind := inductionHypothesis (whole ▸ small) inRest
        rw [String.utf8ByteSize_append] at behind
        omega
      rw [Position.advance_append] at later
      cases fragment with
      | copied expression =>
          rcases List.mem_cons.mp member with rfl | inRest
          · have counted := congrArg Cursor.index
              (Position.cursor_advance_origin start)
            exact Nat.le_of_eq counted.symm
          · exact later inRest
      | words text | quoted text | verbatim text =>
          rw [mappingsFrom_cons (by simp)] at member
          exact later member

/-- The spans of two copies do not even touch. -/
theorem pairwise_mappingsFrom {before : String} {fragments : List Fragment}
    (spaced : Spaced fragments)
    (small : (before ++ fragmentsText fragments).utf8ByteSize < UInt32.size) :
    (mappingsFrom (Position.origin.advance before) fragments).Pairwise
      fun first second =>
        first.generated.stop.index < second.generated.start.index := by
  induction fragments generalizing before with
  | nil => exact .nil
  | cons fragment rest inductionHypothesis =>
      have whole : before ++ fragmentsText (fragment :: rest) =
          before ++ fragment.text ++ fragmentsText rest := by
        rw [fragmentsText_cons, String.append_assoc]
      have later (spaced : Spaced rest) :=
        inductionHypothesis spaced (whole ▸ small)
      rw [Position.advance_append] at later
      cases fragment with
      | copied expression =>
          rcases spaced with ⟨⟨text, more, nonempty, rfl⟩, spacedRest⟩
          refine .cons ?_ (later spacedRest)
          intro mapping member
          -- The first fragment behind the copy is not empty, and all other
          -- mappings come behind that fragment.
          have shifted : mapping ∈ mappingsFrom (Position.origin.advance
              (before ++ expression.value ++ text)) more := by
            rw [Position.advance_append, Position.advance_append]
            rwa [mappingsFrom_cons (by simp)] at member
          have total : before ++
              fragmentsText (.copied expression :: .words text :: more) =
                before ++ expression.value ++ text ++ fragmentsText more := by
            rw [fragmentsText_cons, fragmentsText_cons,
              ← String.append_assoc, ← String.append_assoc]
            rfl
          have behind := start_mappingsFrom (total ▸ small) shifted
          have positive : text.utf8ByteSize ≠ 0 := by
            rwa [ne_eq, String.utf8ByteSize_eq_zero_iff]
          have stop : (before ++ expression.value).utf8ByteSize <
              UInt32.size := by
            rw [total] at small
            simp only [String.utf8ByteSize_append] at small ⊢
            omega
          have counted := congrArg Cursor.index
            (Position.cursor_advance_origin stop)
          rw [UInt32.lt_iff_toNat_lt]
          show ((Position.origin.advance before).advance
            expression.value).index.toNat < _
          rw [← Position.advance_append]
          simp only [Position.cursor, Cursor.reached] at counted
          rw [counted]
          rw [String.utf8ByteSize_append] at behind
          omega
      | words text | quoted text | verbatim text =>
          rw [mappingsFrom_cons (by simp)]
          exact later spaced

end Templating.Code

namespace Templating

open Code

section Generation

variable {file : TemplateFile} {settings : Settings} {generated : Generated}

/-- An accepted file is generated; the code is small if its fragments are. -/
theorem exists_generate_of_accepted (accepted : file.rejectedTag? = none)
    (small : ((layoutModule file settings).flatMap Entry.content).foldr
      (fun fragment total => fragment.text.utf8ByteSize + total) 0 <
        UInt32.size) :
    ∃ generated, generate file settings = .ok generated ∧
      generated.code.utf8ByteSize < UInt32.size := by
  refine ⟨_, generate_of_accepted accepted, ?_⟩
  rwa [utf8ByteSize_fragmentsText]

/-- The mappings of a generated file belong to its expressions, taken in the
order of their copies. -/
theorem exists_copies (ok : generate file settings = .ok generated) :
    ∃ emitted : List Expression, emitted.Perm file.expressions ∧
      List.Forall₂ (Copied generated.code) emitted
        generated.map.mappings.toList := by
  rcases generate_eq_ok ok with ⟨accepted, code, mappings⟩
  refine ⟨_, copies_layoutModule settings accepted, ?_⟩
  have copied := forall₂_mappingsFrom ""
    ((layoutModule file settings).flatMap Entry.content)
  rw [String.empty_append, Position.advance_empty] at copied
  rw [code, mappings]
  exact copied

theorem pairwise_mappings (ok : generate file settings = .ok generated)
    (small : generated.code.utf8ByteSize < UInt32.size) :
    generated.map.mappings.toList.Pairwise fun first second =>
      first.generated.stop.index < second.generated.start.index := by
  rcases generate_eq_ok ok with ⟨accepted, code, mappings⟩
  have spaced := spaced_layoutModule file settings
  generalize (layoutModule file settings).flatMap Entry.content = fragments
    at code mappings spaced
  have bounded :
      ("" ++ fragmentsText fragments).utf8ByteSize < UInt32.size := by
    rw [String.empty_append, ← code]
    exact small
  have apart := pairwise_mappingsFrom spaced bounded
  rw [Position.advance_empty] at apart
  rw [mappings]
  exact apart

end Generation

end Templating

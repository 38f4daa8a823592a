/-!
# Contiguous pieces of a text

Whether a run of characters occurs somewhere in a text.
-/

namespace Templating.Text

/-- The needle occurs in the text as a contiguous piece. -/
def hasPiece (needle : List Char) : List Char → Bool
  | [] => needle.isEmpty
  | character :: rest =>
      needle.isPrefixOf (character :: rest) || hasPiece needle rest

theorem hasPiece_iff (needle text : List Char) :
    hasPiece needle text = true ↔ needle <:+: text := by
  induction text with
  | nil => simp [hasPiece, List.isEmpty_iff]
  | cons character rest inductionHypothesis =>
      simp [hasPiece, inductionHypothesis, List.infix_cons_iff]

end Templating.Text

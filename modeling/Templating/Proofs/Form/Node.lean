import Templating.Form.Node
import Templating.Proofs.Form.Position

/-!
# Nodes are decoded from their forms

The form of a node is a discrete value, and it is decoded to the node by any
decoder for more levels than the form has.  Both follow the nesting of nodes;
the levels that are left shrink with every node.
-/

namespace Templating

open Json

namespace Attribute

@[simp]
theorem decode_encode (inside : Bool) (item : Attribute) :
    decode inside item.encode = .ok item := by
  cases item <;> simp [decode, encode, tags, discreteFields, discrete]

theorem discrete_encode (item : Attribute) : item.encode.discrete = true := by
  cases item <;> rfl

@[simp]
theorem discreteItems_encode (items : List Attribute) :
    discreteItems (items.map encode) = true :=
  discreteItems_map fun item _ => item.discrete_encode

end Attribute

namespace Node

theorem encodeAll_eq_map (nodes : List Node) :
    encodeAll nodes = nodes.map encode := by
  induction nodes with
  | nil => rw [encodeAll]; rfl
  | cons node rest inductionHypothesis =>
      rw [encodeAll, inductionHypothesis, List.map_cons]

/-! ## Discrete forms -/

mutual

theorem discrete_encode (node : Node) : node.encode.discrete = true := by
  match node with
  | .docType value => rw [encode]; rfl
  | .element name isVoid attributes children =>
      simp [encode, discrete, discreteFields, discrete_encodeAll children]
  | .text value => rw [encode]; rfl
  | .whitespace value => rw [encode]; rfl
  | .interpolation value => rw [encode]; rfl
  | .loop header body =>
      simp [encode, discrete, discreteFields, discrete_encodeAll body]
  | .conditional condition thenBranch elseBranch =>
      simp [encode, discrete, discreteFields, discrete_encodeAll thenBranch,
        discrete_encodeBranch elseBranch]
  | .choice subject cases fallback =>
      simp [encode, discrete, discreteFields, discrete_encodeCases cases,
        discrete_encodeBranch fallback]
  | .call component => rw [encode]; rfl

theorem discrete_encodeAll (nodes : List Node) :
    discreteItems (encodeAll nodes) = true := by
  match nodes with
  | [] => rw [encodeAll]; rfl
  | node :: rest =>
      rw [encodeAll, discreteItems, discrete_encode node,
        discrete_encodeAll rest]
      rfl

theorem discrete_encodeBranch (branch : Option (List Node)) :
    (encodeBranch branch).discrete = true := by
  match branch with
  | none => rw [encodeBranch]; rfl
  | some nodes => rw [encodeBranch, discrete, discrete_encodeAll nodes]

theorem discrete_encodeCases (cases : List (Expression × List Node)) :
    discreteItems (encodeCases cases) = true := by
  match cases with
  | [] => rw [encodeCases]; rfl
  | (pattern, body) :: rest =>
      simp [encodeCases, discreteItems, discrete, discreteFields,
        discrete_encodeAll body, discrete_encodeCases rest]

end

attribute [simp] discrete_encodeAll discrete_encodeBranch discrete_encodeCases

/-! ## Decoded forms -/

mutual

theorem decodeWithin_encode (node : Node) (levels : Nat)
    (enough : node.encode.levels < levels) (inside : Bool) :
    decodeWithin levels inside node.encode = .ok node := by
  rcases levels with _ | levels
  · cases enough
  match node with
  | .docType value =>
      simp [encode, decodeWithin, tags, discrete, discreteFields]
  | .element name isVoid attributes children =>
      simp only [encode, Json.levels, levelsFields] at enough
      have inner := decodeList_encodeAll children levels (by omega)
      simp [encode, decodeWithin, tags, discrete, discreteFields, inner]
  | .text value =>
      simp [encode, decodeWithin, tags, discrete, discreteFields]
  | .whitespace value =>
      simp [encode, decodeWithin, tags, discrete, discreteFields]
  | .interpolation value =>
      simp [encode, decodeWithin, tags, discreteFields]
  | .loop header body =>
      simp only [encode, Json.levels, levelsFields] at enough
      have inner := decodeList_encodeAll body levels (by omega)
      simp [encode, decodeWithin, tags, discrete, discreteFields, inner]
  | .conditional condition thenBranch elseBranch =>
      simp only [encode, Json.levels, levelsFields] at enough
      have inner := decodeList_encodeAll thenBranch levels (by omega)
      have other := decodeOption_encodeBranch elseBranch levels (by omega)
      simp [encode, decodeWithin, tags, discrete, discreteFields, inner, other]
  | .choice subject cases fallback =>
      simp only [encode, Json.levels, levelsFields] at enough
      have inner := decodeList_encodeCases cases levels (by omega)
      have other := decodeOption_encodeBranch fallback levels (by omega)
      simp [encode, decodeWithin, tags, discrete, discreteFields, inner, other]
  | .call component =>
      simp [encode, decodeWithin, tags, discreteFields]

theorem decodeList_encodeAll (nodes : List Node) (levels : Nat)
    (enough : levelsItems (encodeAll nodes) < levels) :
    decodeList (decodeWithin levels true) (.array (encodeAll nodes)) =
      .ok nodes := by
  match nodes with
  | [] => rw [encodeAll]; rfl
  | node :: rest =>
      rw [encodeAll, levelsItems] at enough
      have others := decodeList_encodeAll rest levels (by omega)
      rw [decodeList] at others ⊢
      rw [encodeAll, List.mapM_cons,
        decodeWithin_encode node levels (by omega) true, others]
      rfl

theorem decodeOption_encodeBranch (branch : Option (List Node)) (levels : Nat)
    (enough : (encodeBranch branch).levels ≤ levels) :
    decodeOption (decodeList (decodeWithin levels true))
      (encodeBranch branch) = .ok branch := by
  match branch with
  | none => rw [encodeBranch]; rfl
  | some nodes =>
      rw [encodeBranch, Json.levels] at enough
      rw [encodeBranch, decodeOption, decodeList_encodeAll nodes levels]
      · rfl
      · omega
      · intro isNull
        cases isNull

theorem decodeList_encodeCases (cases : List (Expression × List Node))
    (levels : Nat) (enough : levelsItems (encodeCases cases) < levels) :
    decodeList (decodeCase (decodeWithin levels true))
      (.array (encodeCases cases)) = .ok cases := by
  match cases with
  | [] => rw [encodeCases]; rfl
  | (pattern, body) :: rest =>
      simp only [encodeCases, levelsItems, Json.levels, levelsFields] at enough
      have inner := decodeList_encodeAll body levels (by omega)
      have others := decodeList_encodeCases rest levels (by omega)
      rw [decodeList] at others ⊢
      rw [encodeCases, List.mapM_cons, others]
      simp [decodeCase, inner, pure, Except.pure]

end

theorem decode_encode (inside : Bool) (node : Node) :
    decode inside node.encode = .ok node :=
  decodeWithin_encode node (node.encode.levels + 1) (Nat.lt_succ_self _) inside

@[simp]
theorem decodeList_encode (inside : Bool) (nodes : List Node) :
    decodeList (decode inside) (.array (encodeAll nodes)) = .ok nodes := by
  rw [encodeAll_eq_map]
  exact decodeList_map fun node _ => decode_encode inside node

end Node

end Templating

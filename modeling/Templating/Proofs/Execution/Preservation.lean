import Templating.Proofs.Execution.Opening

/-!
# Templates keep their meaning

Running the statements of a template is the same computation as rendering the
template: it gives the same result, leaves the same stage behind and uses every
expression at the same time.  Statements of one node never depend on bindings
of another, so the claim for a sequence of nodes follows from the claim for each
node with any bindings around it.
-/

namespace Templating.Execution

open Code

variable {ω ε ν : Type} {depth : Nat} (meaning : Meaning ω ε ν depth)

/-- Loops over computations that do the same are the same. -/
theorem forM_congr {iterations : List ε} {first second : ε → Run ω depth Unit}
    (same : ∀ inner, first inner = second inner) :
    iterations.forM first = iterations.forM second := by
  rw [funext same]

mutual

/-- The statements of a node render it, with any bindings around. -/
theorem execBlock_lowerNode (node : Node) (last : Nat)
    (accepted : node.rejectedTag? = none) (environment : ε) (store : Store) :
    execBlock meaning (lowerNode node last).1 environment store =
      renderNode meaning node environment := by
  match node with
  | .docType value =>
      show execBlock meaning [.writeText ("<!doctype " ++ value ++ ">")]
        environment store = _
      rw [execBlock_writeText, execBlock_nil, bind_pure_unit, renderNode]
  | .element tag true attributes [] =>
      rw [lowerNode_void, renderNode, execBlock_lowerOpening]
      simp only [if_true, bind_pure_unit]
  | .element tag true attributes (child :: children) =>
      simp [Node.rejectedTag?] at accepted
  | .element tag false attributes children =>
      have below : rejectedIn? children = none := by
        simpa [Node.rejectedTag?] using accepted
      rw [lowerNode_element, renderNode, List.append_assoc]
      have closing : ∀ after, execBlock meaning
          [.writeText ("</" ++ tag ++ ">")] environment after =
          emit ("</" ++ tag ++ ">") := by
        intro after
        rw [execBlock_writeText, execBlock_nil, bind_pure_unit]
      have behind : ∀ after, execBlock meaning
          ((lowerNodes children (lowerOpening tag attributes last).2).1 ++
            [.writeText ("</" ++ tag ++ ">")]) environment after =
          renderNodes meaning children environment >>= fun _ =>
            emit ("</" ++ tag ++ ">") := by
        intro after
        rw [execBlock_append_of closing, execBlock_lowerNodes children _ below]
      rw [execBlock_append_of behind, execBlock_lowerOpening]
      rfl
  | .text value =>
      rw [lowerNode_text, renderNode]
      simp only [execBlock_cons, execBlock_nil, execStatement, pure_bind,
        bind_assoc]
      have found : ((store.set ⟨last + 1⟩ (.text value)) ⟨last + 1⟩).bind
          Bound.text? = some value := by
        rw [Store.set_same]
        rfl
      rw [Store.read_eq found, pure_bind, bind_pure_unit]
  | .whitespace value =>
      show execBlock meaning [] environment store = _
      rw [execBlock_nil, renderNode]
  | .interpolation value =>
      show execBlock meaning [.writeEscaped value] environment store = _
      simp only [execBlock_cons, execBlock_nil, execStatement, renderNode,
        pure_bind, bind_assoc, bind_pure_unit]
  | .loop header body =>
      rw [lowerNode_loop, renderNode]
      simp only [execBlock_cons, execBlock_nil, execStatement, pure_bind,
        bind_assoc, bind_pure_unit]
      congr 1
      funext iterations
      apply forM_congr
      intro inner
      exact execBlock_lowerNodes body last accepted inner store
  | .conditional condition thenBranch elseBranch =>
      simp only [Node.rejectedTag?, Option.or_eq_none_iff] at accepted
      rw [lowerNode_conditional, renderNode]
      simp only [execBlock_cons, execBlock_nil, execStatement, bind_assoc]
      congr 1
      funext holds
      cases holds with
      | none =>
          simp only [bind_assoc, pure_bind, bind_pure_unit]
          exact execElse_lowerBranch elseBranch _ accepted.2 environment store
      | some inner =>
          simp only [bind_assoc, pure_bind, bind_pure_unit]
          exact execBlock_lowerNodes thenBranch last accepted.1 inner store
  | .choice subject cases fallback =>
      simp only [Node.rejectedTag?, Option.or_eq_none_iff] at accepted
      rw [lowerNode_choice, renderNode]
      simp only [execBlock_cons, execBlock_nil, execStatement, pure_bind,
        bind_assoc, bind_pure_unit]
      congr 1
      funext value
      rw [execElse_lowerBranch fallback _ accepted.2 environment store]
      exact execArms_lowerCases cases last accepted.1 value environment store _
  | .call component =>
      show execBlock meaning [.renderComponent component] environment store = _
      simp only [execBlock_cons, execBlock_nil, execStatement, renderNode,
        pure_bind, bind_assoc, bind_pure_unit]

theorem execBlock_lowerNodes (nodes : List Node) (last : Nat)
    (accepted : rejectedIn? nodes = none) (environment : ε) (store : Store) :
    execBlock meaning (lowerNodes nodes last).1 environment store =
      renderNodes meaning nodes environment := by
  match nodes with
  | [] =>
      rw [renderNodes]
      exact execBlock_nil meaning environment store
  | node :: rest =>
      simp only [rejectedIn?, Option.or_eq_none_iff] at accepted
      have behind : ∀ after, execBlock meaning
          (lowerNodes rest (lowerNode node last).2).1 environment after =
          renderNodes meaning rest environment := by
        intro after
        exact execBlock_lowerNodes rest _ accepted.2 environment after
      rw [lowerNodes_cons, renderNodes, execBlock_append_of behind,
        execBlock_lowerNode node last accepted.1]

theorem execElse_lowerBranch (branch : Option (List Node)) (last : Nat)
    (accepted : rejectedInBranch? branch = none) (environment : ε)
    (store : Store) :
    execElse meaning (lowerBranch branch last).1 environment store =
      renderBranch meaning branch environment := by
  match branch with
  | none =>
      show execElse meaning none environment store = _
      rw [execElse, renderBranch]
  | some nodes =>
      rw [lowerBranch_some, execElse, renderBranch]
      exact execBlock_lowerNodes nodes last accepted environment store

theorem execArms_lowerCases (cases : List (Expression × List Node)) (last : Nat)
    (accepted : rejectedInCases? cases = none) (value : ν) (environment : ε)
    (store : Store) (otherwise : Run ω depth Unit) :
    execArms meaning (lowerCases cases last).1 value environment store
        otherwise =
      renderCases meaning cases value environment otherwise := by
  match cases with
  | [] =>
      show execArms meaning [] value environment store otherwise = _
      rw [execArms, renderCases]
  | (pattern, body) :: rest =>
      simp only [rejectedInCases?, Option.or_eq_none_iff] at accepted
      rw [lowerCases_cons, execArms, renderCases]
      congr 1
      funext matched
      cases matched with
      | none =>
          exact execArms_lowerCases rest _ accepted.2 value environment store
            otherwise
      | some inner =>
          exact execBlock_lowerNodes body last accepted.1 inner store

end

end Templating.Execution

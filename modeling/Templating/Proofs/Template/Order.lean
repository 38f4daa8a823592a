import Templating.Proofs.Template.Rejection

/-!
# The order of a document

A node comes before everything inside it, and what is inside it in the order in
which its parts are written: the cases of a choice before its fallback, a branch
before the other one.  The first rejected element is the first node in this
order that is a void element with children.
-/

namespace Templating

/-! ## Nodes in order -/

mutual

/-- A node and everything inside it. -/
def Node.inOrder : Node → List Node
  | .element tag isVoid attributes children =>
      .element tag isVoid attributes children :: nodesInOrder children
  | .loop header body => .loop header body :: nodesInOrder body
  | .conditional condition thenBranch elseBranch =>
      .conditional condition thenBranch elseBranch ::
        (nodesInOrder thenBranch ++ branchInOrder elseBranch)
  | .choice subject cases fallback =>
      .choice subject cases fallback ::
        (casesInOrder cases ++ branchInOrder fallback)
  | .docType value => [.docType value]
  | .text value => [.text value]
  | .whitespace value => [.whitespace value]
  | .interpolation value => [.interpolation value]
  | .call component => [.call component]

/-- Nodes and everything inside them. -/
def nodesInOrder : List Node → List Node
  | [] => []
  | node :: rest => node.inOrder ++ nodesInOrder rest

/-- The nodes of a branch that may be missing. -/
def branchInOrder : Option (List Node) → List Node
  | none => []
  | some nodes => nodesInOrder nodes

/-- The nodes in the bodies of cases. -/
def casesInOrder : List (Expression × List Node) → List Node
  | [] => []
  | (_, body) :: rest => nodesInOrder body ++ casesInOrder rest

end

/-- The nodes of a declaration; only HTML templates have any. -/
def Declaration.nodes : Declaration → List Node
  | .html template => nodesInOrder template.children
  | .style _ => []
  | .script _ => []

/-- All nodes of a file. -/
def TemplateFile.nodes (file : TemplateFile) : List Node :=
  file.declarations.flatMap Declaration.nodes

/-! ## The first rejected element -/

/-- The tag of the node if it is itself a void element with children. -/
def Node.ownRejection? : Node → Option String
  | .element tag isVoid _ children =>
      if isVoid && !children.isEmpty then some tag else none
  | _ => none

/-- The node is a void element with children. -/
def Node.IsRejected (node : Node) : Prop :=
  ∃ tag attributes children,
    node = .element tag true attributes children ∧ children ≠ []

theorem Node.ownRejection?_eq_some {node : Node} {tag : String} :
    node.ownRejection? = some tag ↔ ∃ attributes children,
      node = .element tag true attributes children ∧ children ≠ [] := by
  constructor
  · intro rejected
    cases node with
    | element other isVoid attributes children =>
        rw [ownRejection?, Option.ite_none_right_eq_some, Option.some.injEq,
          Bool.and_eq_true] at rejected
        rcases rejected with ⟨⟨rfl, hasChildren⟩, rfl⟩
        refine ⟨attributes, children, rfl, ?_⟩
        rintro rfl
        cases hasChildren
    | _ => cases rejected
  · rintro ⟨attributes, children, rfl, hasChildren⟩
    have isFilled : (true && !children.isEmpty) = true := by
      simpa using hasChildren
    rw [ownRejection?, if_pos isFilled]

theorem Node.ownRejection?_eq_none {node : Node} :
    node.ownRejection? = none ↔ ¬node.IsRejected := by
  rw [Option.eq_none_iff_forall_ne_some]
  constructor
  · rintro none ⟨tag, attributes, children, same, hasChildren⟩
    exact none tag
      (ownRejection?_eq_some.mpr ⟨attributes, children, same, hasChildren⟩)
  · intro accepted tag rejected
    exact accepted ⟨tag, ownRejection?_eq_some.mp rejected⟩

mutual

theorem Node.rejectedTag?_eq (node : Node) :
    node.rejectedTag? = node.inOrder.findSome? Node.ownRejection? := by
  match node with
  | .element tag isVoid attributes children =>
      rw [Node.rejectedTag?, Node.inOrder, List.findSome?_cons,
        Node.ownRejection?, rejectedIn?_eq children]
      split <;> rfl
  | .loop header body => exact rejectedIn?_eq body
  | .conditional condition thenBranch elseBranch =>
      rw [Node.rejectedTag?, rejectedIn?_eq thenBranch,
        rejectedInBranch?_eq elseBranch, Node.inOrder, List.findSome?_cons,
        List.findSome?_append]
      rfl
  | .choice subject cases fallback =>
      rw [Node.rejectedTag?, rejectedInCases?_eq cases,
        rejectedInBranch?_eq fallback, Node.inOrder, List.findSome?_cons,
        List.findSome?_append]
      rfl
  | .docType value => rfl
  | .text value => rfl
  | .whitespace value => rfl
  | .interpolation value => rfl
  | .call component => rfl

theorem rejectedIn?_eq (nodes : List Node) :
    rejectedIn? nodes = (nodesInOrder nodes).findSome? Node.ownRejection? := by
  match nodes with
  | [] => rfl
  | node :: rest =>
      rw [rejectedIn?, Node.rejectedTag?_eq node, rejectedIn?_eq rest,
        nodesInOrder, List.findSome?_append]

theorem rejectedInBranch?_eq (branch : Option (List Node)) :
    rejectedInBranch? branch =
      (branchInOrder branch).findSome? Node.ownRejection? := by
  match branch with
  | none => rfl
  | some nodes => exact rejectedIn?_eq nodes

theorem rejectedInCases?_eq (cases : List (Expression × List Node)) :
    rejectedInCases? cases =
      (casesInOrder cases).findSome? Node.ownRejection? := by
  match cases with
  | [] => rfl
  | (pattern, body) :: rest =>
      rw [rejectedInCases?, rejectedIn?_eq body, rejectedInCases?_eq rest,
        casesInOrder, List.findSome?_append]

end

theorem rejectedInDeclarations?_eq (declarations : List Declaration) :
    rejectedInDeclarations? declarations =
      (declarations.flatMap Declaration.nodes).findSome?
        Node.ownRejection? := by
  induction declarations with
  | nil => rfl
  | cons declaration rest inductionHypothesis =>
      rw [rejectedInDeclarations?, List.flatMap_cons, List.findSome?_append,
        inductionHypothesis]
      cases declaration with
      | html template =>
          rw [Declaration.rejectedTag?, rejectedIn?_eq template.children]
          rfl
      | style template => rfl
      | script template => rfl

/-- The rejected tag of a file is that of its first rejected node. -/
theorem TemplateFile.rejectedTag?_eq_some {file : TemplateFile} {tag : String} :
    file.rejectedTag? = some tag ↔ ∃ before attributes children after,
      file.nodes = before ++ .element tag true attributes children :: after ∧
        children ≠ [] ∧ ∀ node ∈ before, ¬node.IsRejected := by
  rw [rejectedTag?, rejectedInDeclarations?_eq, List.findSome?_eq_some_iff]
  constructor
  · rintro ⟨before, node, after, nodes, rejected, accepted⟩
    rcases Node.ownRejection?_eq_some.mp rejected with
      ⟨attributes, children, rfl, hasChildren⟩
    refine ⟨before, attributes, children, after, nodes, hasChildren, ?_⟩
    intro node isEarlier
    exact Node.ownRejection?_eq_none.mp (accepted node isEarlier)
  · rintro ⟨before, attributes, children, after, nodes, hasChildren, accepted⟩
    refine ⟨before, _, after, nodes, ?_, ?_⟩
    · exact Node.ownRejection?_eq_some.mpr ⟨_, _, rfl, hasChildren⟩
    · intro node isEarlier
      exact Node.ownRejection?_eq_none.mpr (accepted node isEarlier)

theorem TemplateFile.rejectedTag?_eq_none {file : TemplateFile} :
    file.rejectedTag? = none ↔ ∀ node ∈ file.nodes, ¬node.IsRejected := by
  rw [rejectedTag?, rejectedInDeclarations?_eq, List.findSome?_eq_none_iff]
  exact forall₂_congr fun _ _ => Node.ownRejection?_eq_none

/-! ## Other nodes in place of the rejected elements -/

section Replacing

variable (substitute : Node → Node)

mutual

/-- The node with others in place of the rejected elements in it. -/
def Node.replaceRejected : Node → Node
  | .element tag isVoid attributes children =>
      if isVoid && !children.isEmpty then
        substitute (.element tag isVoid attributes children)
      else
        .element tag isVoid attributes (replaceRejectedIn children)
  | .loop header body => .loop header (replaceRejectedIn body)
  | .conditional condition thenBranch elseBranch =>
      .conditional condition (replaceRejectedIn thenBranch)
        (replaceRejectedInBranch elseBranch)
  | .choice subject cases fallback =>
      .choice subject (replaceRejectedInCases cases)
        (replaceRejectedInBranch fallback)
  | .docType value => .docType value
  | .text value => .text value
  | .whitespace value => .whitespace value
  | .interpolation value => .interpolation value
  | .call component => .call component

def replaceRejectedIn : List Node → List Node
  | [] => []
  | node :: rest => node.replaceRejected :: replaceRejectedIn rest

def replaceRejectedInBranch : Option (List Node) → Option (List Node)
  | none => none
  | some nodes => some (replaceRejectedIn nodes)

def replaceRejectedInCases :
    List (Expression × List Node) → List (Expression × List Node)
  | [] => []
  | (pattern, body) :: rest =>
      (pattern, replaceRejectedIn body) :: replaceRejectedInCases rest

end

def Declaration.replaceRejected : Declaration → Declaration
  | .html template =>
      .html { template with
        children := replaceRejectedIn substitute template.children }
  | .style template => .style template
  | .script template => .script template

/-- The file with other nodes in place of its rejected elements. -/
def TemplateFile.replaceRejected (file : TemplateFile) : TemplateFile :=
  { file with
    declarations := file.declarations.map (·.replaceRejected substitute) }

mutual

/-- Where nothing is rejected, nothing is replaced. -/
theorem Node.replaceRejected_eq (node : Node)
    (accepted : node.rejectedTag? = none) :
    node.replaceRejected substitute = node := by
  match node with
  | .element tag isVoid attributes children =>
      rw [Node.rejectedTag?] at accepted
      rw [Node.replaceRejected]
      split at accepted
      · cases accepted
      · rename_i isFine
        rw [if_neg isFine, replaceRejectedIn_eq children accepted]
  | .loop header body =>
      rw [Node.replaceRejected, replaceRejectedIn_eq body accepted]
  | .conditional condition thenBranch elseBranch =>
      rw [Node.rejectedTag?, Option.or_eq_none_iff] at accepted
      rw [Node.replaceRejected, replaceRejectedIn_eq thenBranch accepted.1,
        replaceRejectedInBranch_eq elseBranch accepted.2]
  | .choice subject cases fallback =>
      rw [Node.rejectedTag?, Option.or_eq_none_iff] at accepted
      rw [Node.replaceRejected, replaceRejectedInCases_eq cases accepted.1,
        replaceRejectedInBranch_eq fallback accepted.2]
  | .docType value => rfl
  | .text value => rfl
  | .whitespace value => rfl
  | .interpolation value => rfl
  | .call component => rfl

theorem replaceRejectedIn_eq (nodes : List Node)
    (accepted : rejectedIn? nodes = none) :
    replaceRejectedIn substitute nodes = nodes := by
  match nodes with
  | [] => rfl
  | node :: rest =>
      rw [rejectedIn?, Option.or_eq_none_iff] at accepted
      rw [replaceRejectedIn, node.replaceRejected_eq accepted.1,
        replaceRejectedIn_eq rest accepted.2]

theorem replaceRejectedInBranch_eq (branch : Option (List Node))
    (accepted : rejectedInBranch? branch = none) :
    replaceRejectedInBranch substitute branch = branch := by
  match branch with
  | none => rfl
  | some nodes =>
      rw [replaceRejectedInBranch, replaceRejectedIn_eq nodes accepted]

theorem replaceRejectedInCases_eq (cases : List (Expression × List Node))
    (accepted : rejectedInCases? cases = none) :
    replaceRejectedInCases substitute cases = cases := by
  match cases with
  | [] => rfl
  | (pattern, body) :: rest =>
      rw [rejectedInCases?, Option.or_eq_none_iff] at accepted
      rw [replaceRejectedInCases, replaceRejectedIn_eq body accepted.1,
        replaceRejectedInCases_eq rest accepted.2]

end

theorem Declaration.replaceRejected_eq (declaration : Declaration)
    (accepted : declaration.rejectedTag? = none) :
    declaration.replaceRejected substitute = declaration := by
  cases declaration with
  | html template =>
      rw [replaceRejected,
        replaceRejectedIn_eq substitute template.children accepted]
  | style template => rfl
  | script template => rfl

end Replacing

end Templating

import Templating.Proofs.Code.Numbering
import Templating.Proofs.Template.Rejection

/-!
# Closed blocks

A block is closed if every temporary that one of its statements reads was bound
by an earlier statement of the same block, and if every statement has code.
Lowering nodes without a rejected element gives closed blocks.
-/

namespace Templating.Code

mutual

/-- The statement has code and reads only available temporaries.  Inside its
own blocks none is available at first. -/
def Statement.Closed (available : List Temporary) : Statement → Prop
  | .bindText _ _ => True
  | .bindClasses _ _ => True
  | .bindScript _ _ => True
  | .bindUrl _ _ => True
  | .writeText _ => True
  | .writeTemporary source => source ∈ available
  | .writeEscaped _ => True
  | .writeEscapedTemporary source => source ∈ available
  | .writeCall source => source ∈ available
  | .renderStyles source => source ∈ available
  | .renderScripts sources => ∀ source ∈ sources, source ∈ available
  | .renderComponent _ => True
  | .loop _ body => BlockClosed [] body
  | .conditional _ thenBlock elseBlock =>
      BlockClosed [] thenBlock ∧ ElseClosed elseBlock
  | .choice _ arms fallback => ArmsClosed arms ∧ ElseClosed fallback
  | .rejected _ => False

/-- Every statement is closed with what is available and what was bound before
it in the block. -/
def BlockClosed (available : List Temporary) : List Statement → Prop
  | [] => True
  | statement :: rest =>
      statement.Closed available ∧
        BlockClosed (statement.bound ++ available) rest

/-- A block that may be missing is closed. -/
def ElseClosed : Option (List Statement) → Prop
  | none => True
  | some block => BlockClosed [] block

/-- The blocks of all arms are closed. -/
def ArmsClosed : List (Expression × List Statement) → Prop
  | [] => True
  | (_, block) :: rest => BlockClosed [] block ∧ ArmsClosed rest

end

theorem Statement.Closed.mono {statement : Statement}
    {available more : List Temporary} (subset : available ⊆ more)
    (closed : statement.Closed available) :
    statement.Closed more := by
  cases statement with
  | writeTemporary source => exact subset closed
  | writeEscapedTemporary source => exact subset closed
  | writeCall source => exact subset closed
  | renderStyles source => exact subset closed
  | renderScripts sources =>
      intro source member
      exact subset (closed source member)
  | _ => exact closed

theorem BlockClosed.mono {block : List Statement}
    {available more : List Temporary} (subset : available ⊆ more)
    (closed : BlockClosed available block) :
    BlockClosed more block := by
  induction block generalizing available more with
  | nil => trivial
  | cons statement rest inductionHypothesis =>
      rcases closed with ⟨first, later⟩
      refine ⟨first.mono subset, inductionHypothesis ?_ later⟩
      intro temporary member
      rcases List.mem_append.mp member with own | known
      · exact List.mem_append_left _ own
      · exact List.mem_append_right _ (subset known)

/-- A block in front makes more available to the block behind it. -/
theorem BlockClosed.append {first second : List Statement}
    {available between : List Temporary}
    (firstClosed : BlockClosed available first)
    (secondClosed : BlockClosed between second)
    (subset : between ⊆ first.flatMap Statement.bound ++ available) :
    BlockClosed available (first ++ second) := by
  induction first generalizing available with
  | nil => exact secondClosed.mono (by simpa using subset)
  | cons statement rest inductionHypothesis =>
      rcases firstClosed with ⟨head, tail⟩
      refine ⟨head, inductionHypothesis tail ?_⟩
      intro temporary member
      have known := subset member
      simp only [List.flatMap_cons, List.mem_append] at known ⊢
      tauto

/-- A block that needs nothing may stand behind any other. -/
theorem BlockClosed.append_nil {first second : List Statement}
    {available : List Temporary}
    (firstClosed : BlockClosed available first)
    (secondClosed : BlockClosed [] second) :
    BlockClosed available (first ++ second) :=
  firstClosed.append secondClosed (List.nil_subset _)

/-! ## Openings -/

/-- The temporaries that prepared attributes are written from. -/
def preparedSources (attributes : List PreparedAttribute) : List Temporary :=
  attributes.flatMap fun
    | .direct _ => []
    | .classList _ source => [source]
    | .handler _ source => [source]

/-- What is bound ahead of a tag is what the attributes are written from. -/
theorem bound_prepareAttribute (item : Attribute) (last : Nat) :
    (prepareAttribute item last).1.1.flatMap Statement.bound =
      preparedSources [(prepareAttribute item last).1.2] := by
  cases item with
  | computed name value =>
      by_cases isClass : name = "class"
      · subst isClass
        rfl
      · by_cases handler : Attribute.isHandlerName name = true
        · rw [prepareAttribute_handler value last isClass handler]
          rfl
        · rw [prepareAttribute_computed value last isClass handler]
          rfl
  | constant name value => rfl
  | flag name => rfl
  | conditional name condition => rfl

theorem bound_prepareAttributes (attributes : List Attribute) (last : Nat) :
    (prepareAttributes attributes last).1.1.flatMap Statement.bound =
      preparedSources (prepareAttributes attributes last).1.2 := by
  induction attributes generalizing last with
  | nil => rfl
  | cons item rest inductionHypothesis =>
      have first := bound_prepareAttribute item last
      rw [prepareAttributes_cons]
      simp only [List.flatMap_append, first, inductionHypothesis,
        preparedSources, List.flatMap_cons, List.flatMap_nil, List.append_nil]

theorem closed_prepareAttribute (item : Attribute) (last : Nat) :
    BlockClosed [] (prepareAttribute item last).1.1 := by
  cases item with
  | computed name value =>
      by_cases isClass : name = "class"
      · subst isClass
        rw [prepareAttribute_classList]
        simp [BlockClosed, Statement.Closed, Statement.bound]
      · by_cases handler : Attribute.isHandlerName name = true
        · rw [prepareAttribute_handler value last isClass handler]
          exact ⟨trivial, trivial⟩
        · rw [prepareAttribute_computed value last isClass handler]
          trivial
  | constant name value => trivial
  | flag name => trivial
  | conditional name condition => trivial

theorem closed_prepareAttributes (attributes : List Attribute) (last : Nat) :
    BlockClosed [] (prepareAttributes attributes last).1.1 := by
  induction attributes generalizing last with
  | nil => trivial
  | cons item rest inductionHypothesis =>
      rw [prepareAttributes_cons]
      exact (closed_prepareAttribute item last).append_nil
        (inductionHypothesis _)

theorem handlerSources_subset (attributes : List PreparedAttribute) :
    handlerSources attributes ⊆ preparedSources attributes := by
  intro source member
  simp only [handlerSources, List.mem_filterMap] at member
  rcases member with ⟨item, itemMember, equal⟩
  rw [preparedSources, List.mem_flatMap]
  refine ⟨item, itemMember, ?_⟩
  cases item <;> simp_all

theorem closed_renderHandlers (attributes : List PreparedAttribute) :
    BlockClosed (preparedSources attributes) (renderHandlers attributes) := by
  unfold renderHandlers
  simp only
  split
  · trivial
  · exact ⟨fun source member => handlerSources_subset attributes member, trivial⟩

/-- An attribute reads nothing but its own source. -/
theorem closed_lowerAttribute (tag : String) (item : PreparedAttribute)
    (last : Nat) :
    BlockClosed (preparedSources [item]) (lowerAttribute tag item last).1 := by
  cases item with
  | direct item =>
      cases item with
      | computed name value =>
          by_cases isUrl : (tag = "a" && name = "href") = true
          · have both : tag = "a" ∧ name = "href" := by
              simpa using isUrl
            rcases both with ⟨rfl, rfl⟩
            rw [lowerAttribute_url]
            simp [quotedAttribute, BlockClosed, Statement.Closed,
              Statement.bound]
          · rw [lowerAttribute_computed value last isUrl]
            simp [quotedAttribute, BlockClosed, Statement.Closed]
      | constant name value => exact ⟨trivial, trivial⟩
      | flag name => exact ⟨trivial, trivial⟩
      | conditional name condition =>
          exact ⟨⟨⟨trivial, trivial⟩, trivial⟩, trivial⟩
  | classList name source =>
      show BlockClosed [source]
        (quotedAttribute name [.writeEscapedTemporary source])
      simp [quotedAttribute, BlockClosed, Statement.Closed, Statement.bound]
  | handler name source =>
      show BlockClosed [source] (quotedAttribute name [.writeCall source])
      simp [quotedAttribute, BlockClosed, Statement.Closed, Statement.bound]

theorem closed_lowerAttributes (tag : String)
    (attributes : List PreparedAttribute) (last : Nat) :
    BlockClosed (preparedSources attributes)
      (lowerAttributes tag attributes last).1 := by
  induction attributes generalizing last with
  | nil => trivial
  | cons item rest inductionHypothesis =>
      have split : preparedSources (item :: rest) =
          preparedSources [item] ++ preparedSources rest := by
        simp [preparedSources]
      rw [lowerAttributes_cons, split]
      have first := (closed_lowerAttribute tag item last).mono
        (List.subset_append_left _ (preparedSources rest))
      refine first.append (inductionHypothesis _) ?_
      intro source member
      simp [member]

theorem closed_lowerOpening (tag : String) (attributes : List Attribute)
    (last : Nat) :
    BlockClosed [] (lowerOpening tag attributes last).1 := by
  cases attributes with
  | nil => exact ⟨trivial, trivial⟩
  | cons item rest =>
      have sources := bound_prepareAttributes (item :: rest) last
      have bindings := closed_prepareAttributes (item :: rest) last
      have written := closed_lowerAttributes tag
        (prepareAttributes (item :: rest) last).1.2
        (prepareAttributes (item :: rest) last).2
      have handlers :=
        closed_renderHandlers (prepareAttributes (item :: rest) last).1.2
      have text (value : String) : BlockClosed [] [.writeText value] :=
        ⟨trivial, trivial⟩
      rw [lowerOpening_cons]
      refine BlockClosed.append_nil ?_ (text ">")
      refine BlockClosed.append ?_ written ?_
      · refine BlockClosed.append_nil ?_ (text _)
        refine bindings.append handlers ?_
        rw [sources]
        exact List.subset_append_left _ _
      · simp only [List.flatMap_append, sources, List.append_assoc]
        exact List.subset_append_left _ _

/-! ## Nodes -/

mutual

theorem closed_lowerNode (node : Node) (last : Nat)
    (accepted : node.rejectedTag? = none) :
    BlockClosed [] (lowerNode node last).1 := by
  match node with
  | .element tag true attributes [] =>
      rw [lowerNode_void]
      exact closed_lowerOpening tag attributes last
  | .element tag true attributes (child :: children) =>
      simp [Node.rejectedTag?] at accepted
  | .element tag false attributes children =>
      have below : rejectedIn? children = none := by
        simpa [Node.rejectedTag?] using accepted
      rw [lowerNode_element]
      refine BlockClosed.append_nil ?_ ⟨trivial, trivial⟩
      exact (closed_lowerOpening tag attributes last).append_nil
        (closed_lowerNodes children _ below)
  | .text value =>
      rw [lowerNode_text]
      simp [BlockClosed, Statement.Closed, Statement.bound]
  | .loop header body =>
      rw [lowerNode_loop]
      exact ⟨closed_lowerNodes body last accepted, trivial⟩
  | .conditional condition thenBranch elseBranch =>
      simp only [Node.rejectedTag?, Option.or_eq_none_iff] at accepted
      rw [lowerNode_conditional]
      exact ⟨⟨closed_lowerNodes thenBranch last accepted.1,
        closed_lowerBranch elseBranch _ accepted.2⟩, trivial⟩
  | .choice subject cases fallback =>
      simp only [Node.rejectedTag?, Option.or_eq_none_iff] at accepted
      rw [lowerNode_choice]
      exact ⟨⟨closed_lowerCases cases last accepted.1,
        closed_lowerBranch fallback _ accepted.2⟩, trivial⟩
  | .docType value => exact ⟨trivial, trivial⟩
  | .whitespace value => trivial
  | .interpolation value => exact ⟨trivial, trivial⟩
  | .call component => exact ⟨trivial, trivial⟩

theorem closed_lowerNodes (nodes : List Node) (last : Nat)
    (accepted : rejectedIn? nodes = none) :
    BlockClosed [] (lowerNodes nodes last).1 := by
  match nodes with
  | [] => trivial
  | node :: rest =>
      simp only [rejectedIn?, Option.or_eq_none_iff] at accepted
      rw [lowerNodes_cons]
      exact (closed_lowerNode node last accepted.1).append_nil
        (closed_lowerNodes rest _ accepted.2)

theorem closed_lowerBranch (branch : Option (List Node)) (last : Nat)
    (accepted : rejectedInBranch? branch = none) :
    ElseClosed (lowerBranch branch last).1 := by
  match branch with
  | none => trivial
  | some nodes =>
      rw [lowerBranch_some]
      exact closed_lowerNodes nodes last accepted

theorem closed_lowerCases (cases : List (Expression × List Node)) (last : Nat)
    (accepted : rejectedInCases? cases = none) :
    ArmsClosed (lowerCases cases last).1 := by
  match cases with
  | [] => trivial
  | (pattern, body) :: rest =>
      simp only [rejectedInCases?, Option.or_eq_none_iff] at accepted
      rw [lowerCases_cons]
      exact ⟨closed_lowerNodes body last accepted.1,
        closed_lowerCases rest _ accepted.2⟩

end

end Templating.Code

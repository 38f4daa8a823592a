import Templating.Proofs.Code.Closed
import Templating.Proofs.Execution.Node
import Templating.Proofs.Execution.Statement

/-!
# Openings keep their meaning

The expressions of class lists and event handlers are bound ahead of a tag, and
the attributes are written from the bindings.  Between the two the bindings
stay as they are, because every temporary is numbered higher than all before
it.
-/

namespace Templating.Execution

open Code

/-- The attribute is written from a binding to the value that is ready for
it. -/
inductive Agrees (store : Store) : PreparedAttribute → ReadyAttribute → Prop
  where
  | direct (item : Attribute) : Agrees store (.direct item) (.direct item)
  | classList {source : Temporary} {classes : List Style.Class} (name : String)
      (found : store source = some (.classes classes)) :
      Agrees store (.classList name source) (.classList name classes)
  | handler {source : Temporary} {script : Render.Script} (name : String)
      (found : store source = some (.script script)) :
      Agrees store (.handler name source) (.handler name script)

/-- The temporaries up to a number are bound as they were. -/
def SameUpTo (last : Nat) (store other : Store) : Prop :=
  ∀ source : Temporary, source.number ≤ last → other source = store source

namespace SameUpTo

theorem refl (last : Nat) (store : Store) : SameUpTo last store store :=
  fun _ _ => rfl

theorem trans {last next : Nat} {first second third : Store}
    (before : SameUpTo last first second) (behind : SameUpTo next second third)
    (ordered : last ≤ next) : SameUpTo last first third := by
  intro source bounded
  rw [behind source (Nat.le_trans bounded ordered), before source bounded]

theorem set (last : Nat) (store : Store) (value : Bound) :
    SameUpTo last store (store.set ⟨last + 1⟩ value) := by
  intro source bounded
  apply Store.set_other
  rintro rfl
  exact Nat.not_succ_le_self last bounded

end SameUpTo

/-- An attribute that is written from low numbers does not see higher ones
change. -/
theorem Agrees.of_same {last : Nat} {store other : Store}
    {prepared : PreparedAttribute} {ready : ReadyAttribute}
    (agrees : Agrees store prepared ready) (same : SameUpTo last store other)
    (bounded : ∀ source ∈ preparedSources [prepared], source.number ≤ last) :
    Agrees other prepared ready := by
  cases agrees with
  | direct item => exact .direct item
  | classList name found =>
      refine .classList name ?_
      rw [same _ (bounded _ (by simp [preparedSources])), found]
  | handler name found =>
      refine .handler name ?_
      rw [same _ (bounded _ (by simp [preparedSources])), found]

/-- All attributes of an element agree with what is ready for them. -/
abbrev AllAgree (store : Store) (prepared : List PreparedAttribute)
    (ready : List ReadyAttribute) : Prop :=
  List.Forall₂ (Agrees store) prepared ready

theorem mem_preparedSources_cons {item : PreparedAttribute}
    {rest : List PreparedAttribute} {source : Temporary} :
    source ∈ preparedSources (item :: rest) ↔
      source ∈ preparedSources [item] ∨ source ∈ preparedSources rest := by
  simp [preparedSources]

theorem AllAgree.of_same {last : Nat} {store other : Store}
    {prepared : List PreparedAttribute} {ready : List ReadyAttribute}
    (agree : AllAgree store prepared ready) (same : SameUpTo last store other)
    (bounded : ∀ source ∈ preparedSources prepared, source.number ≤ last) :
    AllAgree other prepared ready := by
  induction agree with
  | nil => exact .nil
  | cons first _ inductionHypothesis =>
      refine .cons (first.of_same same ?_) (inductionHypothesis ?_)
      · intro source member
        exact bounded source (mem_preparedSources_cons.mpr (.inl member))
      · intro source member
        exact bounded source (mem_preparedSources_cons.mpr (.inr member))

theorem bound_subset_targets (statement : Statement) :
    statement.bound ⊆ statement.targets := by
  cases statement <;> simp [Statement.bound, Statement.targets]

theorem boundIn_subset_targets (block : List Statement) :
    block.flatMap Statement.bound ⊆ blockTargets block := by
  induction block with
  | nil => exact List.nil_subset _
  | cons statement rest inductionHypothesis =>
      rw [List.flatMap_cons, blockTargets]
      exact List.append_subset.mpr
        ⟨List.subset_append_of_subset_left _ (bound_subset_targets statement),
          List.subset_append_of_subset_right _ inductionHypothesis⟩

/-- What is bound for an attribute is numbered up to the last number after
it. -/
theorem preparedSource_le {item : Attribute} {last : Nat} {source : Temporary}
    (member : source ∈ preparedSources [(prepareAttribute item last).1.2]) :
    source.number ≤ (prepareAttribute item last).2 := by
  rw [← bound_prepareAttribute] at member
  have target := boundIn_subset_targets _ member
  exact ((numbered_prepareAttribute item last).mem target).2

theorem preparedSources_le {attributes : List Attribute} {last : Nat}
    {source : Temporary}
    (member : source ∈
      preparedSources (prepareAttributes attributes last).1.2) :
    source.number ≤ (prepareAttributes attributes last).2 := by
  rw [← bound_prepareAttributes] at member
  have target := boundIn_subset_targets _ member
  exact ((numbered_prepareAttributes attributes last).mem target).2

section Simulation

variable {ω ε ν : Type} {depth : Nat} {meaning : Meaning ω ε ν depth}
  {environment : ε}

/-! ## Ahead of the tag -/

/-- Preparing an attribute makes it ready, whatever comes behind. -/
theorem execBlock_prepareAttribute {item : Attribute} {last : Nat}
    {store : Store} {behind : List Statement}
    {continued : ReadyAttribute → Run ω depth Unit}
    (same : ∀ (after : Store) (ready : ReadyAttribute),
      SameUpTo last store after →
      Agrees after (prepareAttribute item last).1.2 ready →
      execBlock meaning behind environment after = continued ready) :
    execBlock meaning ((prepareAttribute item last).1.1 ++ behind) environment
        store =
      readyAttribute meaning item environment >>= continued := by
  cases item with
  | computed name value =>
      by_cases isClass : name = "class"
      · subst isClass
        rw [prepareAttribute_classList] at same ⊢
        simp only [List.cons_append, List.nil_append, execBlock_cons,
          execStatement, readyAttribute, if_true, bind_assoc, pure_bind]
        congr 1
        funext classes
        have found : (store.set ⟨last + 1⟩ (.classes classes)) ⟨last + 1⟩ =
            some (.classes classes) := Store.set_same _ _ _
        rw [Store.read_eq (by rw [found]; rfl), pure_bind]
        congr 1
        funext _
        exact same _ _ (.set last store _) (.classList "class" found)
      · by_cases handler : Attribute.isHandlerName name = true
        · rw [prepareAttribute_handler value last isClass handler] at same ⊢
          simp only [List.cons_append, List.nil_append, execBlock_cons,
            execStatement, readyAttribute, if_neg isClass, handler, if_true,
            bind_assoc, pure_bind]
          congr 1
          funext script
          exact same _ _ (.set last store _)
            (.handler name (Store.set_same _ _ _))
        · rw [prepareAttribute_computed value last isClass handler] at same ⊢
          simp only [List.nil_append, readyAttribute, if_neg isClass,
            if_neg handler, pure_bind]
          exact same _ _ (.refl last store) (.direct _)
  | constant name value =>
      exact (same _ _ (.refl last store) (.direct _)).trans
        (pure_bind _ _).symm
  | flag name =>
      exact (same _ _ (.refl last store) (.direct _)).trans
        (pure_bind _ _).symm
  | conditional name condition =>
      exact (same _ _ (.refl last store) (.direct _)).trans
        (pure_bind _ _).symm

/-- Preparing all attributes makes them ready, whatever comes behind. -/
theorem execBlock_prepareAttributes {attributes : List Attribute} {last : Nat}
    {store : Store} {behind : List Statement}
    {continued : List ReadyAttribute → Run ω depth Unit}
    (same : ∀ (after : Store) (ready : List ReadyAttribute),
      SameUpTo last store after →
      AllAgree after (prepareAttributes attributes last).1.2 ready →
      execBlock meaning behind environment after = continued ready) :
    execBlock meaning ((prepareAttributes attributes last).1.1 ++ behind)
        environment store =
      readyAttributes meaning attributes environment >>= continued := by
  induction attributes generalizing last store continued with
  | nil =>
      rw [readyAttributes, pure_bind]
      exact same store [] (.refl last store) .nil
  | cons item rest inductionHypothesis =>
      have ordered := (numbered_prepareAttribute item last).le
      rw [prepareAttributes_cons] at same ⊢
      simp only [List.append_assoc, readyAttributes, bind_assoc, pure_bind]
      apply execBlock_prepareAttribute
      intro between first keptFirst agreesFirst
      apply inductionHypothesis
      intro after more kept agree
      apply same after (first :: more) (keptFirst.trans kept ordered)
      have agrees := agreesFirst.of_same kept fun _ => preparedSource_le
      exact .cons agrees agree

theorem readScripts_handlerSources {store : Store}
    {prepared : List PreparedAttribute} {ready : List ReadyAttribute}
    (agree : AllAgree store prepared ready) :
    (store.readScripts (handlerSources prepared) :
        Run ω depth (List Render.Script)) =
      pure (handlerScripts ready) := by
  induction agree with
  | nil => rfl
  | cons first _ inductionHypothesis =>
      cases first with
      | direct item => exact inductionHypothesis
      | classList name found => exact inductionHypothesis
      | @handler source script name found =>
          simp only [handlerSources, handlerScripts, List.filterMap_cons]
            at inductionHypothesis ⊢
          rw [Store.readScripts, Store.read_eq (by rw [found]; rfl), pure_bind,
            inductionHypothesis, pure_bind]

theorem isEmpty_handlerSources {store : Store}
    {prepared : List PreparedAttribute} {ready : List ReadyAttribute}
    (agree : AllAgree store prepared ready) :
    (handlerSources prepared).isEmpty = (handlerScripts ready).isEmpty := by
  induction agree with
  | nil => rfl
  | cons first _ inductionHypothesis =>
      cases first with
      | direct item => exact inductionHypothesis
      | classList name found => exact inductionHypothesis
      | handler name found => rfl

theorem execBlock_renderHandlers {store : Store}
    {prepared : List PreparedAttribute} {ready : List ReadyAttribute}
    (agree : AllAgree store prepared ready) (behind : List Statement) :
    execBlock meaning (renderHandlers prepared ++ behind) environment store =
      renderHandlerScripts ready >>= fun _ =>
        execBlock meaning behind environment store := by
  rw [renderHandlers, renderHandlerScripts, isEmpty_handlerSources agree]
  split
  · rw [List.nil_append, pure_bind]
  · rw [List.cons_append, List.nil_append, execBlock_cons, execStatement,
      readScripts_handlerSources agree]
    simp only [pure_bind, bind_assoc]

/-! ## Behind the tag -/

/-- A value between quotes is written with any bindings that the value leaves
behind. -/
theorem execBlock_quotedAttribute {name : String} {value behind : List Statement}
    {store : Store} {inner second : Run ω depth Unit}
    (same : execBlock meaning (value ++ .writeText "\"" :: behind) environment
        store =
      inner >>= fun _ => emit "\"" >>= fun _ => second) :
    execBlock meaning (quotedAttribute name value ++ behind) environment store =
      renderQuoted name inner >>= fun _ => second := by
  rw [quotedAttribute, List.append_assoc, List.cons_append,
    execBlock_writeText, List.cons_append, List.nil_append, same]
  simp only [renderQuoted, bind_assoc]

/-- An attribute is written as it is rendered, whatever comes behind. -/
theorem execBlock_lowerAttribute {tag : String} {prepared : PreparedAttribute}
    {ready : ReadyAttribute} {last : Nat} {store : Store}
    {behind : List Statement} {second : Run ω depth Unit}
    (agrees : Agrees store prepared ready)
    (same : ∀ after, SameUpTo last store after →
      execBlock meaning behind environment after = second) :
    execBlock meaning ((lowerAttribute tag prepared last).1 ++ behind)
        environment store =
      renderAttribute meaning tag ready environment >>= fun _ => second := by
  have unchanged := same store (.refl last store)
  cases agrees with
  | direct item =>
      cases item with
      | flag name =>
          show execBlock meaning (.writeText (" " ++ name) :: behind)
            environment store = _
          rw [execBlock_writeText, unchanged]
          rfl
      | constant name value =>
          show execBlock meaning (.writeText (" " ++ name ++ "=\"" ++
            Markup.escape value ++ "\"") :: behind) environment store = _
          rw [execBlock_writeText, unchanged]
          rfl
      | conditional name condition =>
          show execBlock meaning
            (.conditional condition [.writeText (" " ++ name)] none :: behind)
            environment store = _
          simp only [execBlock_cons, execStatement, renderAttribute, bind_assoc,
            pure_bind]
          congr 1
          funext holds
          cases holds with
          | none => simp [execElse, unchanged]
          | some inner => simp [unchanged]
      | computed name value =>
          by_cases isUrl : (tag = "a" && name = "href") = true
          · have both : tag = "a" ∧ name = "href" := by
              simpa using isUrl
            rcases both with ⟨rfl, rfl⟩
            rw [lowerAttribute_url, renderAttribute, if_pos isUrl]
            apply execBlock_quotedAttribute
            simp only [List.cons_append, List.nil_append, execBlock_cons,
              execStatement, bind_assoc, pure_bind]
            congr 1
            funext address
            have found : ((store.set ⟨last + 1⟩ (.address address.shown))
                ⟨last + 1⟩).bind Bound.shown? = some address.shown := by
              rw [Store.set_same]
              rfl
            rw [Store.read_eq found, pure_bind,
              same _ (.set last store _)]
          · rw [lowerAttribute_computed value last isUrl, renderAttribute,
              if_neg isUrl]
            apply execBlock_quotedAttribute
            simp only [List.cons_append, List.nil_append, execBlock_cons,
              execStatement, bind_assoc, pure_bind, unchanged]
  | classList name found =>
      apply execBlock_quotedAttribute
      simp only [List.cons_append, List.nil_append, execBlock_cons,
        execStatement, bind_assoc, pure_bind, unchanged]
      rw [Store.read_eq (by rw [found]; rfl), pure_bind]
  | handler name found =>
      apply execBlock_quotedAttribute
      simp only [List.cons_append, List.nil_append, execBlock_cons,
        execStatement, bind_assoc, pure_bind, unchanged]
      rw [Store.read_eq (by rw [found]; rfl), pure_bind]

theorem execBlock_lowerAttributes {tag : String}
    {prepared : List PreparedAttribute} {ready : List ReadyAttribute}
    {last : Nat} {store : Store} {behind : List Statement}
    {second : Run ω depth Unit} (agree : AllAgree store prepared ready)
    (bounded : ∀ source ∈ preparedSources prepared, source.number ≤ last)
    (same : ∀ after, execBlock meaning behind environment after = second) :
    execBlock meaning ((lowerAttributes tag prepared last).1 ++ behind)
        environment store =
      renderAttributes meaning tag ready environment >>= fun _ => second := by
  induction prepared generalizing ready last store with
  | nil =>
      cases agree
      rw [renderAttributes, pure_bind]
      exact same store
  | cons item rest inductionHypothesis =>
      cases agree with
      | cons first others =>
          have ordered := (numbered_lowerAttribute tag item last).le
          have boundedRest : ∀ source ∈ preparedSources rest,
              source.number ≤ last := by
            intro source member
            exact bounded source (mem_preparedSources_cons.mpr (.inr member))
          rw [lowerAttributes_cons]
          simp only [List.append_assoc, renderAttributes, bind_assoc]
          apply execBlock_lowerAttribute first
          intro after kept
          apply inductionHypothesis (AllAgree.of_same others kept boundedRest)
          intro source member
          exact Nat.le_trans (boundedRest source member) ordered

/-- The statements of an opening tag render it, with any bindings around. -/
theorem execBlock_lowerOpening (tag : String) (attributes : List Attribute)
    (last : Nat) (store : Store) :
    execBlock meaning (lowerOpening tag attributes last).1 environment store =
      renderOpening meaning tag attributes environment := by
  cases attributes with
  | nil =>
      rw [lowerOpening_nil, renderOpening, execBlock_writeText, execBlock_nil,
        bind_pure_unit]
  | cons item rest =>
      rw [lowerOpening_cons, renderOpening]
      simp only [List.append_assoc, List.cons_append, List.nil_append]
      apply execBlock_prepareAttributes
      intro after ready _ agree
      rw [execBlock_renderHandlers agree]
      congr 1
      funext _
      rw [execBlock_writeText]
      congr 1
      funext _
      apply execBlock_lowerAttributes agree
      · intro source member
        exact preparedSources_le member
      · intro other
        rw [execBlock_writeText, execBlock_nil, bind_pure_unit]

end Simulation

end Templating.Execution

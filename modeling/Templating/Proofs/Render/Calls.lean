import Templating.Proofs.Render.Delivery

/-!
# Calls of a tree of components

A tree of components that shares one scope comes down to a sequence of calls:
the steps that write something or touch the registries, in the order in which
they run.  Each call answers with what it writes.  A style or script call writes
the first occurrences among its entries, where the names of all calls before it
are known.
-/

namespace Templating.Render

/-! ## Trees that share a scope -/

mutual

/-- The step leaves the scope to the tree: it does not run anything in a copy
of the scope and does not register names without writing what they stand
for. -/
def Step.isShared : Step → Bool
  | .embed body => stepsShared body
  | .wrap body => stepsShared body
  | .attach newChildren => stepsShared newChildren
  | .fork _ _ => false
  | .addStyle _ => false
  | .addScript _ => false
  | .write _ => true
  | .offer _ => true
  | .flush => true
  | .writeBuffered => true
  | .styles _ => true
  | .scripts _ => true
  | .children => true
  | .dropChildren => true
  | .takeChildren => true
  | .openRegistries => true
  | .hasStyle _ => true
  | .hasScript _ => true
  | .fail _ => true

def stepsShared : List Step → Bool
  | [] => true
  | step :: rest => step.isShared && stepsShared rest

end

/-- The children of the scope leave the scope to the tree as well. -/
def Scope.isShared (scope : Scope) : Bool :=
  stepsShared scope.body

/-! ## Calls -/

/-- The step is a call of its own and no way to other steps. -/
def Step.isCall : Step → Bool
  | .write _ => true
  | .offer _ => true
  | .flush => true
  | .writeBuffered => true
  | .styles _ => true
  | .scripts _ => true
  | .openRegistries => true
  | .hasStyle _ => true
  | .hasScript _ => true
  | _ => false

/-- `CallsOf children steps calls after`: with these children in the scope, the
steps come down to the calls and leave other children behind. -/
inductive CallsOf :
    Option Component → List Step → List Step → Option Component → Prop where
  | nil {children : Option Component} : CallsOf children [] [] children
  | call {children after : Option Component} {step : Step}
      {rest calls : List Step} (isCall : step.isCall = true)
      (others : CallsOf children rest calls after) :
      CallsOf children (step :: rest) (step :: calls) after
  | embed {children between after : Option Component}
      {body rest inner others : List Step}
      (within : CallsOf children body inner between)
      (behind : CallsOf between rest others after) :
      CallsOf children (.embed body :: rest) (inner ++ others) after
  | wrap {children between after : Option Component}
      {body rest inner others : List Step}
      (within : CallsOf children body inner between)
      (behind : CallsOf between rest others after) :
      CallsOf children (.wrap body :: rest) (inner ++ others) after
  | children {children between after : Option Component}
      {rest inner others : List Step}
      (within : CallsOf children (children.getD []) inner between)
      (behind : CallsOf between rest others after) :
      CallsOf children (.children :: rest) (inner ++ others) after
  | dropChildren {children after : Option Component} {rest others : List Step}
      (behind : CallsOf none rest others after) :
      CallsOf children (.dropChildren :: rest) (.dropChildren :: others) after
  | takeSome {between after : Option Component} {component : Component}
      {rest inner others : List Step}
      (within : CallsOf none component inner between)
      (behind : CallsOf between rest others after) :
      CallsOf (some component) (.takeChildren :: rest) (inner ++ others) after
  | takeNone {after : Option Component} {rest others : List Step}
      (behind : CallsOf none rest others after) :
      CallsOf none (.takeChildren :: rest) (.takeChildren :: others) after
  | attach {children after : Option Component}
      {newChildren rest others : List Step}
      (behind : CallsOf (some newChildren) rest others after) :
      CallsOf children (.attach newChildren :: rest) others after

theorem CallsOf.append {children between after : Option Component}
    {first second calls others : List Step}
    (before : CallsOf children first calls between)
    (behind : CallsOf between second others after) :
    CallsOf children (first ++ second) (calls ++ others) after := by
  induction before with
  | nil => exact behind
  | call isCall _ inductionHypothesis =>
      exact .call isCall (inductionHypothesis behind)
  | embed within _ _ inductionHypothesis =>
      rw [List.append_assoc]
      exact .embed within (inductionHypothesis behind)
  | wrap within _ _ inductionHypothesis =>
      rw [List.append_assoc]
      exact .wrap within (inductionHypothesis behind)
  | children within _ _ inductionHypothesis =>
      rw [List.append_assoc]
      exact .children within (inductionHypothesis behind)
  | dropChildren _ inductionHypothesis =>
      exact .dropChildren (inductionHypothesis behind)
  | takeSome within _ _ inductionHypothesis =>
      rw [List.append_assoc]
      exact .takeSome within (inductionHypothesis behind)
  | takeNone _ inductionHypothesis =>
      exact .takeNone (inductionHypothesis behind)
  | attach _ inductionHypothesis =>
      exact .attach (inductionHypothesis behind)

/-- Children that are left behind come from the tree or were there before. -/
theorem CallsOf.isShared {children after : Option Component}
    {steps calls : List Step} (callsOf : CallsOf children steps calls after)
    (sharedSteps : stepsShared steps = true)
    (sharedChildren : stepsShared (children.getD []) = true) :
    stepsShared (after.getD []) = true := by
  induction callsOf with
  | nil => exact sharedChildren
  | call _ _ inductionHypothesis =>
      rw [stepsShared, Bool.and_eq_true] at sharedSteps
      exact inductionHypothesis sharedSteps.2 sharedChildren
  | embed _ _ inner inductionHypothesis =>
      rw [stepsShared, Bool.and_eq_true, Step.isShared] at sharedSteps
      exact inductionHypothesis sharedSteps.2
        (inner sharedSteps.1 sharedChildren)
  | wrap _ _ inner inductionHypothesis =>
      rw [stepsShared, Bool.and_eq_true, Step.isShared] at sharedSteps
      exact inductionHypothesis sharedSteps.2
        (inner sharedSteps.1 sharedChildren)
  | children _ _ inner inductionHypothesis =>
      rw [stepsShared, Bool.and_eq_true] at sharedSteps
      exact inductionHypothesis sharedSteps.2
        (inner sharedChildren sharedChildren)
  | dropChildren _ inductionHypothesis =>
      rw [stepsShared, Bool.and_eq_true] at sharedSteps
      exact inductionHypothesis sharedSteps.2 rfl
  | takeSome _ _ inner inductionHypothesis =>
      rw [stepsShared, Bool.and_eq_true] at sharedSteps
      exact inductionHypothesis sharedSteps.2 (inner sharedChildren rfl)
  | takeNone _ inductionHypothesis =>
      rw [stepsShared, Bool.and_eq_true] at sharedSteps
      exact inductionHypothesis sharedSteps.2 rfl
  | attach _ inductionHypothesis =>
      rw [stepsShared, Bool.and_eq_true, Step.isShared] at sharedSteps
      exact inductionHypothesis sharedSteps.2 sharedSteps.1

/-! ## Answers -/

/-- What a call writes. -/
inductive Output where
  /-- Bytes that no registry decides on. -/
  | plain (data : Bytes)
  /-- A style block with the rules of some entries. -/
  | styles (entries : List (String × String))
  /-- A script block with the functions of some entries. -/
  | scripts (entries : List (String × String))

def Output.bytes : Output → Bytes
  | .plain data => data
  | .styles entries =>
      blockBytes "<style type=\"text/css\">" "</style>" entries
  | .scripts entries =>
      blockBytes "<script type=\"text/javascript\">" "</script>" entries

/-- The entries in the style block of a call. -/
def Output.styleEntries : Output → List (String × String)
  | .styles entries => entries
  | _ => []

/-- The entries in the script block of a call. -/
def Output.scriptEntries : Output → List (String × String)
  | .scripts entries => entries
  | _ => []

/-- The bytes that a call without blocks may write: its text, a first part of
it if it is only offered, or a word in brackets. -/
def Step.MayWrite : Step → Bytes → Prop
  | .write text, data => data = Text.bytes text
  | .offer text, data => data <+: Text.bytes text
  | .flush, data => data = []
  | .openRegistries, data => data = []
  | .styles _, _ => False
  | .scripts _, _ => False
  | _, data => ∃ word, data = Text.bytes ("[" ++ word ++ "]")

/-- The styled classes of a call as entries of the registry. -/
def Step.styleEntries : Step → List (String × String)
  | .styles classes => namedStyles classes
  | _ => []

/-- The scripts of a call as entries of the registry. -/
def Step.scriptEntries : Step → List (String × String)
  | .scripts used => namedScripts used
  | _ => []

/-- The names that calls register are those of their styled classes; constants
are not among them. -/
theorem mem_styleNames {calls : List Step} {name : String} :
    name ∈ (calls.flatMap Step.styleEntries).map Prod.fst ↔
      ∃ classes styled, .styles classes ∈ calls ∧
        .styled styled ∈ classes ∧ styled.id = name := by
  rw [List.mem_map]
  constructor
  · rintro ⟨entry, member, rfl⟩
    rcases List.mem_flatMap.mp member with ⟨call, isCall, member⟩
    cases call with
    | styles classes =>
        rcases mem_namedStyles.mp member with ⟨styled, isListed, rfl⟩
        exact ⟨classes, styled, isCall, isListed, rfl⟩
    | _ => cases member
  · rintro ⟨classes, styled, isCall, isListed, rfl⟩
    exact ⟨(styled.id, styled.rule), List.mem_flatMap.mpr
      ⟨.styles classes, isCall, mem_namedStyles.mpr ⟨styled, isListed, rfl⟩⟩,
      rfl⟩

theorem mem_scriptNames {calls : List Step} {name : String} :
    name ∈ (calls.flatMap Step.scriptEntries).map Prod.fst ↔
      ∃ used script, .scripts used ∈ calls ∧ script ∈ used ∧
        script.name = name := by
  rw [List.mem_map]
  constructor
  · rintro ⟨entry, member, rfl⟩
    rcases List.mem_flatMap.mp member with ⟨call, isCall, member⟩
    cases call with
    | scripts used =>
        rcases List.mem_map.mp member with ⟨script, isListed, rfl⟩
        exact ⟨used, script, isCall, isListed, rfl⟩
    | _ => cases member
  · rintro ⟨used, script, isCall, isListed, rfl⟩
    exact ⟨(script.name, script.function), List.mem_flatMap.mpr
      ⟨.scripts used, isCall, List.mem_map.mpr ⟨script, isListed, rfl⟩⟩, rfl⟩

/-- `Answers styles scripts calls outputs`: with these names known, the calls
write the outputs. -/
inductive Answers :
    List String → List String → List Step → List Output → Prop where
  | nil {styles scripts : List String} : Answers styles scripts [] []
  | plain {styles scripts : List String} {call : Step} {data : Bytes}
      {calls : List Step} {outputs : List Output} (allowed : call.MayWrite data)
      (others : Answers styles scripts calls outputs) :
      Answers styles scripts (call :: calls) (.plain data :: outputs)
  | styles {styles scripts : List String} {classes : List Style.Class}
      {calls : List Step} {outputs : List Output}
      (others : Answers (styles ++ (namedStyles classes).map Prod.fst) scripts
        calls outputs) :
      Answers styles scripts (.styles classes :: calls)
        (.styles (firstOccurrences styles (namedStyles classes)) :: outputs)
  | scripts {styles scripts : List String} {used : List Script}
      {calls : List Step} {outputs : List Output}
      (others : Answers styles (scripts ++ (namedScripts used).map Prod.fst)
        calls outputs) :
      Answers styles scripts (.scripts used :: calls)
        (.scripts (firstOccurrences scripts (namedScripts used)) :: outputs)

namespace Answers

variable {styles scripts : List String} {calls : List Step}
  {outputs : List Output}

/-- Only which names are known matters. -/
theorem congr {otherStyles otherScripts : List String}
    (answers : Answers styles scripts calls outputs)
    (sameStyles : ∀ name, name ∈ styles ↔ name ∈ otherStyles)
    (sameScripts : ∀ name, name ∈ scripts ↔ name ∈ otherScripts) :
    Answers otherStyles otherScripts calls outputs := by
  induction answers generalizing otherStyles otherScripts with
  | nil => exact .nil
  | plain allowed _ inductionHypothesis =>
      exact .plain allowed (inductionHypothesis sameStyles sameScripts)
  | styles _ inductionHypothesis =>
      rw [firstOccurrences_congr sameStyles]
      refine .styles (inductionHypothesis ?_ sameScripts)
      intro name
      rw [List.mem_append, List.mem_append, sameStyles name]
  | scripts _ inductionHypothesis =>
      rw [firstOccurrences_congr sameScripts]
      refine .scripts (inductionHypothesis sameStyles ?_)
      intro name
      rw [List.mem_append, List.mem_append, sameScripts name]

/-- A call without blocks adds nothing to the registries. -/
theorem entries_of_mayWrite {call : Step} {data : Bytes}
    (allowed : call.MayWrite data) :
    call.styleEntries = [] ∧ call.scriptEntries = [] := by
  cases call with
  | styles classes => exact allowed.elim
  | scripts used => exact allowed.elim
  | _ => exact ⟨rfl, rfl⟩

theorem append {others : List Step} {more : List Output}
    (answers : Answers styles scripts calls outputs)
    (behind : Answers
      (styles ++ (calls.flatMap Step.styleEntries).map Prod.fst)
      (scripts ++ (calls.flatMap Step.scriptEntries).map Prod.fst)
      others more) :
    Answers styles scripts (calls ++ others) (outputs ++ more) := by
  induction answers with
  | nil => simpa using behind
  | plain allowed _ inductionHypothesis =>
      rcases entries_of_mayWrite allowed with ⟨noStyles, noScripts⟩
      simp only [List.flatMap_cons, noStyles, noScripts, List.nil_append]
        at behind
      exact .plain allowed (inductionHypothesis behind)
  | styles _ inductionHypothesis =>
      refine .styles (inductionHypothesis ?_)
      simpa [Step.styleEntries, Step.scriptEntries] using behind
  | scripts _ inductionHypothesis =>
      refine .scripts (inductionHypothesis ?_)
      simpa [Step.styleEntries, Step.scriptEntries] using behind

/-- All style blocks together hold the first occurrences among all calls. -/
theorem styleEntries (answers : Answers styles scripts calls outputs) :
    outputs.flatMap Output.styleEntries =
      firstOccurrences styles (calls.flatMap Step.styleEntries) := by
  induction answers with
  | nil => rfl
  | plain allowed _ inductionHypothesis =>
      rw [List.flatMap_cons, List.flatMap_cons, (entries_of_mayWrite allowed).1]
      exact inductionHypothesis
  | styles _ inductionHypothesis =>
      rw [List.flatMap_cons, List.flatMap_cons, inductionHypothesis]
      exact (firstOccurrences_append _ _).symm
  | scripts _ inductionHypothesis => exact inductionHypothesis

/-- All script blocks together hold the first occurrences among all calls. -/
theorem scriptEntries (answers : Answers styles scripts calls outputs) :
    outputs.flatMap Output.scriptEntries =
      firstOccurrences scripts (calls.flatMap Step.scriptEntries) := by
  induction answers with
  | nil => rfl
  | plain allowed _ inductionHypothesis =>
      rw [List.flatMap_cons, List.flatMap_cons, (entries_of_mayWrite allowed).2]
      exact inductionHypothesis
  | styles _ inductionHypothesis => exact inductionHypothesis
  | scripts _ inductionHypothesis =>
      rw [List.flatMap_cons, List.flatMap_cons, inductionHypothesis]
      exact (firstOccurrences_append _ _).symm

/-- The answers to some first calls and the answers to the others. -/
theorem split {before behind : List Step}
    (answers : Answers styles scripts (before ++ behind) outputs) :
    ∃ first second, outputs = first ++ second ∧
      Answers styles scripts before first ∧
      Answers (styles ++ (before.flatMap Step.styleEntries).map Prod.fst)
        (scripts ++ (before.flatMap Step.scriptEntries).map Prod.fst)
        behind second := by
  induction before generalizing styles scripts outputs with
  | nil => exact ⟨[], outputs, rfl, .nil, by simpa using answers⟩
  | cons call rest inductionHypothesis =>
      rw [List.cons_append] at answers
      cases answers with
      | plain allowed others =>
          rcases inductionHypothesis others with
            ⟨first, second, rfl, early, late⟩
          rcases entries_of_mayWrite allowed with ⟨noStyles, noScripts⟩
          refine ⟨_ :: first, second, rfl, .plain allowed early, ?_⟩
          simp only [List.flatMap_cons, noStyles, noScripts, List.nil_append]
          exact late
      | styles others =>
          rcases inductionHypothesis others with
            ⟨first, second, rfl, early, late⟩
          refine ⟨_ :: first, second, rfl, .styles early, ?_⟩
          simpa [Step.styleEntries, Step.scriptEntries] using late
      | scripts others =>
          rcases inductionHypothesis others with
            ⟨first, second, rfl, early, late⟩
          refine ⟨_ :: first, second, rfl, .scripts early, ?_⟩
          simpa [Step.styleEntries, Step.scriptEntries] using late

theorem length_eq (answers : Answers styles scripts calls outputs) :
    outputs.length = calls.length := by
  induction answers with
  | nil => rfl
  | plain _ _ inductionHypothesis =>
      rw [List.length_cons, List.length_cons, inductionHypothesis]
  | styles _ inductionHypothesis =>
      rw [List.length_cons, List.length_cons, inductionHypothesis]
  | scripts _ inductionHypothesis =>
      rw [List.length_cons, List.length_cons, inductionHypothesis]

/-- Among calls whose equal names stand for equal rules, every class of every
call is known or its own rule is written. -/
theorem styled (answers : Answers styles scripts calls outputs)
    (equalRules : ∀ first ∈ calls.flatMap Step.styleEntries,
      ∀ second ∈ calls.flatMap Step.styleEntries,
        first.1 = second.1 → first = second)
    {entry : String × String}
    (member : entry ∈ calls.flatMap Step.styleEntries) :
    entry.1 ∈ styles ∨ entry ∈ outputs.flatMap Output.styleEntries := by
  rw [answers.styleEntries]
  rcases known_or_kept styles member with isKnown | ⟨text, kept⟩
  · exact .inl isKnown
  · have same := equalRules entry member (entry.1, text)
      (mem_of_mem_firstOccurrences kept) rfl
    rw [same]
    exact .inr kept

end Answers

end Templating.Render

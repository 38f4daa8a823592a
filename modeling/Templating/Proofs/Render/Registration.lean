import Templating.Proofs.Render.Trace

/-!
# Classes along a trace

Every class that is registered in the scope of a call was registered by a call
before it.  So a class that is used is known before the run, registered by hand,
or its rule is written by one of the calls.  Without copies of the scope, each
call knows exactly what the calls before it registered.
-/

namespace Templating.Render

/-- What agrees still does so after the same was added on both sides. -/
def Extends (agrees : List String → List String → Prop) : Prop :=
  ∀ registered before more : List String, agrees registered before →
    agrees (registered ++ more) (before ++ more)

/-- What agrees still does so if more was registered elsewhere. -/
def Forgives (agrees : List String → List String → Prop) : Prop :=
  ∀ registered before more : List String, agrees registered before →
    agrees registered (before ++ more)

/-- What is registered in the scope of each call agrees with what the calls
before it register. -/
def Threaded (agrees : List String → List String → Prop)
    (before : List String) : Trace → Prop
  | [] => True
  | call :: rest =>
      agrees call.registered before ∧
        Threaded agrees (before ++ call.step.registers) rest

/-- All classes that the calls of a trace register. -/
def registrations (trace : Trace) : List String :=
  trace.flatMap fun call => call.step.registers

section Threaded

variable {agrees : List String → List String → Prop}

theorem Threaded.append {before : List String} {first second : Trace}
    (early : Threaded agrees before first)
    (late : Threaded agrees (before ++ registrations first) second) :
    Threaded agrees before (first ++ second) := by
  induction first generalizing before with
  | nil =>
      rw [registrations, List.flatMap_nil, List.append_nil] at late
      exact late
  | cons call rest inductionHypothesis =>
      rw [registrations, List.flatMap_cons, ← List.append_assoc] at late
      exact ⟨early.1, inductionHypothesis early.2 late⟩

/-- A trace is threaded, and its notes agree with all that was registered. -/
structure Tracks (agrees : List String → List String → Prop)
    (before : List String) (traced : Trace × Notes) : Prop where
  threaded : Threaded agrees before traced.1
  noted : agrees traced.2.registered (before ++ registrations traced.1)

theorem Tracks.append {before : List String} {first second : Trace}
    {between last : Notes} (early : Tracks agrees before (first, between))
    (late : Tracks agrees (before ++ registrations first) (second, last)) :
    Tracks agrees before (first ++ second, last) := by
  refine ⟨early.threaded.append late.threaded, ?_⟩
  have noted := late.noted
  rw [List.append_assoc] at noted
  rw [registrations, List.flatMap_append]
  exact noted

theorem Tracks.single (extending : Extends agrees) {before : List String}
    {notes : Notes} (agreed : agrees notes.registered before) (step : Step) :
    Tracks agrees before ([⟨notes.registered, step⟩],
      { notes with registered := notes.registered ++ step.registers }) := by
  refine ⟨⟨agreed, trivial⟩, ?_⟩
  rw [registrations, List.flatMap_singleton]
  exact extending _ _ step.registers agreed

/-- A step that leaves what is registered as it is. -/
theorem Tracks.unchanged {before : List String} {trace : Trace} {notes : Notes}
    (threaded : Threaded agrees before trace)
    (nothing : registrations trace = [])
    (agreed : agrees notes.registered before) :
    Tracks agrees before (trace, notes) := by
  refine ⟨threaded, ?_⟩
  rw [nothing, List.append_nil]
  exact agreed

end Threaded

/-- Nothing in the trace runs in a copy of the scope. -/
def Unforked (trace : Trace) : Prop :=
  ∀ call ∈ trace, call.step.isFork = false

section Tracks

variable {agrees : List String → List String → Prop}

variable (agrees) in
/-- What a copy of the scope registers does no harm, or there is no copy. -/
def Tolerates (trace : Trace) : Prop :=
  Forgives agrees ∨ Unforked trace

theorem Tolerates.left {first second : Trace}
    (tolerates : Tolerates agrees (first ++ second)) :
    Tolerates agrees first :=
  tolerates.imp_right fun unforked _ member =>
    unforked _ (List.mem_append_left _ member)

theorem Tolerates.right {first second : Trace}
    (tolerates : Tolerates agrees (first ++ second)) :
    Tolerates agrees second :=
  tolerates.imp_right fun unforked _ member =>
    unforked _ (List.mem_append_right _ member)

mutual

theorem tracks_traceStep (extending : Extends agrees)
    {traceChildren : Component → Notes → Trace × Notes}
    (childrenTrack : ∀ component notes before, agrees notes.registered before →
      Tolerates agrees (traceChildren component notes).1 →
      Tracks agrees before (traceChildren component notes))
    (step : Step) {notes : Notes} {before : List String}
    (agreed : agrees notes.registered before)
    (tolerates : Tolerates agrees (traceStep traceChildren step notes).1) :
    Tracks agrees before (traceStep traceChildren step notes) := by
  cases step with
  | embed body =>
      exact tracks_traceSteps extending childrenTrack body agreed tolerates
  | wrap body =>
      exact tracks_traceSteps extending childrenTrack body agreed tolerates
  | children => exact childrenTrack _ notes before agreed tolerates
  | takeChildren =>
      rw [traceStep] at tolerates ⊢
      cases present : notes.children with
      | some component =>
          rw [present] at tolerates
          exact childrenTrack component { notes with children := none } before
            agreed tolerates
      | none => exact .unchanged ⟨agreed, trivial⟩ rfl agreed
  | dropChildren => exact .unchanged ⟨agreed, trivial⟩ rfl agreed
  | attach newChildren => exact .unchanged trivial rfl agreed
  | fork newChildren body =>
      rcases tolerates with forgives | unforked
      · have copied : agrees
            (Notes.mk (some newChildren) notes.registered).registered before :=
          agreed
        have inner := tracks_traceSteps extending childrenTrack body copied
          (.inl forgives)
        refine ⟨⟨agreed, ?_⟩, forgives _ _ _ agreed⟩
        show Threaded agrees (before ++ []) _
        rw [List.append_nil]
        exact inner.threaded
      · cases unforked _ List.mem_cons_self
  | _ => exact .single extending agreed _

theorem tracks_traceSteps (extending : Extends agrees)
    {traceChildren : Component → Notes → Trace × Notes}
    (childrenTrack : ∀ component notes before, agrees notes.registered before →
      Tolerates agrees (traceChildren component notes).1 →
      Tracks agrees before (traceChildren component notes))
    (steps : List Step) {notes : Notes} {before : List String}
    (agreed : agrees notes.registered before)
    (tolerates : Tolerates agrees (traceSteps traceChildren steps notes).1) :
    Tracks agrees before (traceSteps traceChildren steps notes) := by
  cases steps with
  | nil => exact .unchanged trivial rfl agreed
  | cons step rest =>
      have early := tracks_traceStep extending childrenTrack step agreed
        tolerates.left
      exact early.append (tracks_traceSteps extending childrenTrack rest
        early.noted tolerates.right)

end

theorem tracks_traceWithin (extending : Extends agrees) (nesting : Nat)
    (component : Component) (notes : Notes) (before : List String)
    (agreed : agrees notes.registered before)
    (tolerates : Tolerates agrees (traceWithin nesting component notes).1) :
    Tracks agrees before (traceWithin nesting component notes) := by
  induction nesting generalizing component notes before with
  | zero => exact .unchanged trivial rfl agreed
  | succ nesting inductionHypothesis =>
      exact tracks_traceSteps extending inductionHypothesis component agreed
        tolerates

end Tracks

/-- Whatever is registered in the scope of a call was registered before it. -/
theorem threaded_subset (component : Component) (children : Option Component) :
    Threaded (· ⊆ ·) [] (component.trace children) := by
  have extending : Extends (· ⊆ ·) := fun _ _ more agreed =>
    List.append_subset.mpr ⟨List.subset_append_of_subset_left more agreed,
      List.subset_append_right _ _⟩
  have forgives : Forgives (· ⊆ ·) := fun _ _ more agreed =>
    List.subset_append_of_subset_left more agreed
  exact (tracks_traceWithin extending maxNesting component ⟨children, []⟩ []
    (List.Subset.refl _) (.inl forgives)).threaded

/-- Without copies of the scope, all that was registered before a call is
registered in its scope. -/
theorem threaded_eq {component : Component} {children : Option Component}
    (unforked : Unforked (component.trace children)) :
    Threaded (· = ·) [] (component.trace children) := by
  have extending : Extends (· = ·) := fun _ _ more agreed =>
    congrArg (· ++ more) agreed
  exact (tracks_traceWithin extending maxNesting component ⟨children, []⟩ [] rfl
    (.inr unforked)).threaded

/-! ## What calls write -/

variable {known before : List String} {trace : Trace} {outputs : List Output}

/-- Equal names stand for equal texts. -/
def EqualTexts (entries : List (String × String)) : Prop :=
  ∀ first ∈ entries, ∀ second ∈ entries, first.1 = second.1 → first = second

theorem EqualTexts.subset {entries some : List (String × String)}
    (equalTexts : EqualTexts entries) (isPart : some ⊆ entries) :
    EqualTexts some :=
  fun first isFirst second isSecond =>
    equalTexts first (isPart isFirst) second (isPart isSecond)

/-- The style entries of the calls of a trace. -/
def styleUses (trace : Trace) : List (String × String) :=
  trace.flatMap fun call => call.step.styleEntries

theorem registers_of_not_addStyle {step : Step}
    (written : ∀ id, step ≠ .addStyle id) :
    step.registers = step.styleEntries.map Prod.fst := by
  cases step with
  | addStyle id => exact absurd rfl (written id)
  | _ => rfl

/-- The entries in the output of a call are the first occurrences among its own,
apart from what was known before the run and what its scope has got registered
since. -/
theorem Writes.styleEntries {call : Call} {output : Output}
    (writes : Writes known call output) :
    output.styleEntries =
      firstOccurrences (known ++ call.registered) call.step.styleEntries := by
  cases writes with
  | styles => rfl
  | scripts ofUsed => rfl
  | fork => rfl
  | plain single allowed =>
      rw [(Answers.entries_of_mayWrite allowed).1]
      rfl

/-- If each call knows what the calls before it registered, and none of them by
hand, the blocks hold the first occurrences among all uses. -/
theorem styleEntries_of_threaded
    (threaded : Threaded (· = ·) before trace)
    (written : ∀ call ∈ trace, ∀ id, call.step ≠ .addStyle id)
    (writes : List.Forall₂ (Writes known) trace outputs) :
    outputs.flatMap Output.styleEntries =
      firstOccurrences (known ++ before) (styleUses trace) := by
  induction writes generalizing before with
  | nil => rfl
  | @cons call output rest others first _ inductionHypothesis =>
      have later := inductionHypothesis threaded.2
        fun _ member => written _ (List.mem_cons_of_mem _ member)
      have uses : styleUses (call :: rest) =
          call.step.styleEntries ++ styleUses rest := List.flatMap_cons
      rw [List.flatMap_cons, first.styleEntries, threaded.1, later, uses,
        firstOccurrences_append,
        registers_of_not_addStyle (written call List.mem_cons_self),
        List.append_assoc]

/-- Only which names are known matters. -/
theorem Writes.congr {other : List String} {call : Call} {output : Output}
    (writes : Writes known call output)
    (same : ∀ name, name ∈ known ↔ name ∈ other) :
    Writes other call output := by
  cases writes with
  | @styles registered classes =>
      have sameRegistered : ∀ name,
          name ∈ known ++ registered ↔ name ∈ other ++ registered := by
        intro name
        rw [List.mem_append, List.mem_append, same]
      rw [firstOccurrences_congr sameRegistered]
      exact .styles
  | scripts ofUsed => exact .scripts ofUsed
  | fork => exact .fork
  | plain single allowed => exact .plain single allowed

/-- A class that a call uses is known before the run or registered in the scope
of the call, or its own rule is written. -/
theorem Writes.available {call : Call} {output : Output}
    (writes : Writes known call output)
    (equalRules : EqualTexts call.step.styleEntries) {entry : String × String}
    (used : entry ∈ call.step.styleEntries) :
    entry.1 ∈ known ∨ entry.1 ∈ call.registered ∨
      entry ∈ output.styleEntries := by
  rw [writes.styleEntries]
  rcases known_or_kept (known ++ call.registered) used with
    isKnown | ⟨text, kept⟩
  · exact (List.mem_append.mp isKnown).imp_right .inl
  · have same := equalRules entry used (entry.1, text)
      (mem_of_mem_firstOccurrences kept) rfl
    rw [same]
    exact .inr (.inr kept)

/-- A class is registered by hand or because it is used. -/
theorem mem_registers {step : Step} {name : String}
    (registered : name ∈ step.registers) :
    step = .addStyle name ∨ ∃ entry ∈ step.styleEntries, entry.1 = name := by
  cases step with
  | addStyle id =>
      rw [List.mem_singleton.mp registered]
      exact .inl rfl
  | styles classes => exact .inr (List.mem_map.mp registered)
  | _ => cases registered

/-- The class is known before the run, registered by hand in it, or written with
its rule. -/
def Provided (known : List String) (trace : Trace) (outputs : List Output)
    (entry : String × String) : Prop :=
  entry.1 ∈ known ∨ (∃ call ∈ trace, call.step = .addStyle entry.1) ∨
    entry ∈ outputs.flatMap Output.styleEntries

theorem Provided.cons {entry : String × String}
    (provided : Provided known trace outputs entry) (call : Call)
    (output : Output) :
    Provided known (call :: trace) (output :: outputs) entry := by
  rcases provided with isKnown | ⟨other, member, byHand⟩ | written
  · exact .inl isKnown
  · exact .inr (.inl ⟨other, List.mem_cons_of_mem _ member, byHand⟩)
  · exact .inr (.inr (List.mem_append_right _ written))

/-- Every class that is used is provided, if equal names stand for equal
rules. -/
theorem provided_of_threaded (threaded : Threaded (· ⊆ ·) before trace)
    (equalRules : EqualTexts (styleUses trace))
    (writes : List.Forall₂ (Writes known) trace outputs)
    {entry : String × String} (used : entry ∈ styleUses trace) :
    entry.1 ∈ before ∨ Provided known trace outputs entry := by
  induction writes generalizing before with
  | nil => cases used
  | @cons call output rest others first _ inductionHypothesis =>
      have isUse : call.step.styleEntries ⊆ styleUses (call :: rest) :=
        List.subset_append_left _ _
      have isLaterUse : styleUses rest ⊆ styleUses (call :: rest) :=
        List.subset_append_right _ _
      have ofFirst : entry ∈ call.step.styleEntries →
          entry.1 ∈ before ∨
            Provided known (call :: rest) (output :: others) entry := by
        intro member
        rcases first.available (equalRules.subset isUse) member with
          isKnown | isRegistered | written
        · exact .inr (.inl isKnown)
        · exact .inl (threaded.1 isRegistered)
        · exact .inr (.inr (.inr (List.mem_append_left _ written)))
      rcases List.mem_append.mp used with isFirst | isLater
      · exact ofFirst isFirst
      · rcases inductionHypothesis threaded.2 (equalRules.subset isLaterUse)
            isLater with isRegistered | provided
        · rcases List.mem_append.mp isRegistered with earlier | byFirst
          · exact .inl earlier
          · rcases mem_registers byFirst with byHand | ⟨other, member, sameName⟩
            · exact .inr (.inr (.inl ⟨call, List.mem_cons_self, byHand⟩))
            · have same := equalRules other (isUse member) entry used
                sameName
              exact ofFirst (same ▸ member)
        · exact .inr (provided.cons call output)

end Templating.Render

import Templating.Proofs.Render.Delivery

/-!
# What steps do by themselves

Most steps run no other steps.  Such a step changes the scope and then writes
some texts, and both depend only on the scope and on how much is buffered.
-/

namespace Templating.Render

/-- A word in brackets. -/
def bracketed (word : String) : String :=
  "[" ++ word ++ "]"

/-- The texts of a block in the order in which they are written. -/
def blockTexts (opening text closing : String) : List String :=
  if text.isEmpty then [] else [opening, text, closing]

/-- The step runs no other steps; it delivers all that it writes and cannot
fail otherwise. -/
def Step.isOwn : Step → Bool
  | .offer _ => false
  | .flush => false
  | .embed _ => false
  | .wrap _ => false
  | .children => false
  | .takeChildren => false
  | .fork _ _ => false
  | .fail _ => false
  | _ => true

/-- The scope that a step leaves if it runs no other steps. -/
def Step.scopeAfter (scope : Scope) : Step → Scope
  | .styles classes =>
      { scope with
        styles := some (collectNew scope.writtenStyles (namedStyles classes)).1 }
  | .scripts used =>
      { scope with
        scripts := some (collectNew scope.writtenScripts (namedScripts used)).1 }
  | .dropChildren => { scope with children := none }
  | .attach newChildren => { scope with children := some newChildren }
  | .openRegistries =>
      { scope with
        styles := some scope.writtenStyles
        scripts := some scope.writtenScripts }
  | .addStyle id =>
      { scope with styles := some (scope.writtenStyles.insert id) }
  | .addScript name =>
      { scope with scripts := some (scope.writtenScripts.insert name) }
  | _ => scope

/-- The texts that a step writes if it runs no other steps. -/
def Step.texts (scope : Scope) (buffered : Nat) : Step → List String
  | .write text => [text]
  | .writeBuffered => [bracketed (toString buffered)]
  | .styles classes =>
      blockTexts "<style type=\"text/css\">"
        (collectNew scope.writtenStyles (namedStyles classes)).2 "</style>"
  | .scripts used =>
      blockTexts "<script type=\"text/javascript\">"
        (collectNew scope.writtenScripts (namedScripts used)).2 "</script>"
  | .dropChildren => [bracketed (Rendering.answer scope.children.isSome)]
  | .addStyle id =>
      [bracketed (Rendering.answer (!scope.writtenStyles.contains id))]
  | .addScript name =>
      [bracketed (Rendering.answer (!scope.writtenScripts.contains name))]
  | .hasStyle id =>
      [bracketed <|
        match scope.styles with
        | some registry => Rendering.answer (registry.contains id)
        | none => "null"]
  | .hasScript name =>
      [bracketed <|
        match scope.scripts with
        | some registry => Rendering.answer (registry.contains name)
        | none => "null"]
  | _ => []

namespace Rendering

variable {depth : Nat}

/-- Writes texts in order. -/
def writeTexts : List String → Rendering depth Unit
  | [] => return
  | text :: rest => do
      write text
      writeTexts rest

theorem writeTexts_singleton (text : String) :
    (writeTexts [text] : Rendering depth Unit) = write text := by
  funext stage
  show EStateM.bind (write text) (fun _ => EStateM.pure ()) stage = _
  unfold EStateM.bind
  cases write text stage <;> rfl

theorem writeBlock_eq (opening text closing : String) :
    (writeBlock opening text closing : Rendering depth Unit) =
      writeTexts (blockTexts opening text closing) := by
  rw [writeBlock, blockTexts]
  split
  · rfl
  · rw [writeTexts, writeTexts, writeTexts_singleton]

theorem writeTexts_ok {texts : List String} {stage after : Stage depth}
    (ok : writeTexts texts stage = .ok () after) :
    Wrote (texts.flatMap Text.bytes) stage after := by
  induction texts generalizing stage with
  | nil =>
      rw [writeTexts, pure_eq_ok] at ok
      rw [← ok.2]
      exact ⟨rfl, (List.append_nil _).symm⟩
  | cons text rest inductionHypothesis =>
      rcases bind_eq_ok.mp ok with ⟨_, between, first, later⟩
      exact (write_ok first).trans (inductionHypothesis later)

/-- A step that runs no other steps sets the scope and writes its texts. -/
theorem runStep_own {step : Step} (own : step.isOwn = true)
    (runChildren : Component → Anywhere) (stage : Stage depth) :
    runStep runChildren step depth stage =
      writeTexts (step.texts stage.scope stage.channel.buffered)
        ⟨step.scopeAfter stage.scope, stage.channel⟩ := by
  cases step with
  | write text =>
      rw [runStep, Step.texts, writeTexts_singleton]
      rfl
  | writeBuffered =>
      rw [runStep, buffered_bind, Step.texts, writeTexts_singleton]
      rfl
  | styles classes =>
      rw [runStep, Step.texts, ← writeBlock_eq]
      rfl
  | scripts used =>
      rw [runStep, Step.texts, ← writeBlock_eq]
      rfl
  | dropChildren =>
      rw [runStep, scope_bind, setScope_bind, Step.texts, writeTexts_singleton]
      rfl
  | attach newChildren =>
      rw [runStep, scope_bind]
      rfl
  | openRegistries =>
      rw [runStep, scope_bind]
      rfl
  | addStyle id =>
      rw [runStep, scope_bind, setScope_bind, Step.texts, writeTexts_singleton]
      rfl
  | addScript name =>
      rw [runStep, scope_bind, setScope_bind, Step.texts, writeTexts_singleton]
      rfl
  | hasStyle id =>
      rw [runStep, scope_bind, Step.texts, writeTexts_singleton]
      cases stage.scope.styles <;> rfl
  | hasScript name =>
      rw [runStep, scope_bind, Step.texts, writeTexts_singleton]
      cases stage.scope.scripts <;> rfl
  | _ => cases own

end Rendering

end Templating.Render

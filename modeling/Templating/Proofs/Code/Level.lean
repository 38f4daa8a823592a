import Templating.Proofs.Code.Supply

/-!
# Code written at a level

The lines of a module can be written one after the other at a level that is kept
while they are written: it goes up by a step in front of the statements of a
block and down again behind them.  Written like this, the lines are those that
are laid out.  The level never has to go below zero, and every part of the code
leaves it as it was; only the header of a module is written apart from the line
that ends the module's block.
-/

namespace Templating.Code

/-! ## Commands -/

/-- What is done to write code. -/
inductive Command where
  /-- Go one step deeper. -/
  | indent
  /-- Go back by one step. -/
  | dedent
  /-- Write a line at the level that is reached. -/
  | line (fragments : List Fragment)
  | blank
  /-- Mark an element that no code can be given for. -/
  | rejected (tag : String)

/-- Carries out commands from a level: what they write and the level behind
them, unless it had to be below zero. -/
def run : Nat → List Command → Option (List Entry × Nat)
  | level, [] => some ([], level)
  | level, .indent :: rest => run (level + 1) rest
  | 0, .dedent :: _ => none
  | level + 1, .dedent :: rest => run level rest
  | level, .line fragments :: rest =>
      (run level rest).map (Prod.map (.of level fragments :: ·) id)
  | level, .blank :: rest =>
      (run level rest).map (Prod.map (.line .blank :: ·) id)
  | level, .rejected tag :: rest =>
      (run level rest).map (Prod.map (.rejected tag :: ·) id)

section Run

variable {level between after : Nat} {first second : List Command}
  {entries more : List Entry}

theorem run_line (fragments : List Fragment)
    (behind : run level second = some (more, after)) :
    run level (.line fragments :: second) =
      some (.of level fragments :: more, after) := by
  rw [run, behind]
  rfl

theorem run_append (ran : run level first = some (entries, between))
    (behind : run between second = some (more, after)) :
    run level (first ++ second) = some (entries ++ more, after) := by
  induction first generalizing level entries with
  | nil =>
      cases ran
      exact behind
  | cons command rest inductionHypothesis =>
      cases command with
      | indent => exact inductionHypothesis ran
      | dedent =>
          cases level with
          | zero => cases ran
          | succ level => exact inductionHypothesis ran
      | line fragments | blank | rejected tag =>
          rw [run, Option.map_eq_some_iff] at ran
          rcases ran with ⟨⟨others, last⟩, later, same⟩
          cases same
          rw [List.cons_append, run, inductionHypothesis later]
          rfl

/-- Commands a step deeper. -/
def inBlock (commands : List Command) : List Command :=
  .indent :: commands ++ [.dedent]

theorem run_inBlock (ran : run (level + 1) first = some (entries, level + 1)) :
    run level (inBlock first) = some (entries, level) := by
  have closed : run (level + 1) (first ++ [.dedent]) =
      some (entries ++ [], level) := run_append ran rfl
  rwa [List.append_nil] at closed

end Run

/-! ## Lines in a row -/

/-- The command for an entry that was laid out, whatever its depth is. -/
def Entry.command : Entry → Command
  | .line ⟨_, []⟩ => .blank
  | .line ⟨_, fragment :: rest⟩ => .line (fragment :: rest)
  | .rejected tag => .rejected tag

/-- The entry was laid out for a level.  Blank lines are laid out for each. -/
def Entry.StandsAt (level : Nat) : Entry → Prop
  | .line whole => whole = .blank ∨ whole.depth = level ∧ whole.fragments ≠ []
  | .rejected _ => True

theorem standsAt_of (level : Nat) {fragments : List Fragment}
    (shown : fragments ≠ []) : (Entry.of level fragments).StandsAt level :=
  .inr ⟨rfl, shown⟩

theorem standsAt_plain (level : Nat) (text : String) :
    (Entry.plain level text).StandsAt level :=
  standsAt_of level (List.cons_ne_nil _ _)

theorem standsAt_blank (level : Nat) : (Entry.line .blank).StandsAt level :=
  .inl rfl

theorem run_commands {level : Nat} {entries : List Entry}
    (each : ∀ entry ∈ entries, entry.StandsAt level) :
    run level (entries.map Entry.command) = some (entries, level) := by
  induction entries with
  | nil => rfl
  | cons entry rest inductionHypothesis =>
      rw [List.forall_mem_cons] at each
      have behind := inductionHypothesis each.2
      match entry, each.1 with
      | .line _, .inl rfl =>
          show (run level (rest.map Entry.command)).map _ = _
          rw [behind]
          rfl
      | .line ⟨_, _ :: _⟩, .inr ⟨rfl, _⟩ => exact run_line _ behind
      | .line ⟨_, []⟩, .inr ⟨_, shown⟩ => exact absurd rfl shown
      | .rejected tag, _ =>
          show (run level (rest.map Entry.command)).map _ = _
          rw [behind]
          rfl

/-! ## Statements -/

mutual

/-- A statement with blocks inside is written around them; every other one is a
single line. -/
def statementCommands : Statement → List Command
  | .loop header body =>
      .line (loopLine header) :: inBlock (blockCommands body) ++
        [.line [.words closingLine]]
  | .conditional condition thenBlock elseBlock =>
      .line (conditionLine condition) :: inBlock (blockCommands thenBlock) ++
        elseCommands elseBlock ++ [.line [.words closingLine]]
  | .choice subject arms fallback =>
      .line (choiceLine subject) ::
        inBlock (armCommands arms ++ fallbackCommands fallback) ++
        [.line [.words closingLine]]
  | statement => (layoutStatement 0 statement).map Entry.command

def blockCommands : List Statement → List Command
  | [] => []
  | statement :: rest => statementCommands statement ++ blockCommands rest

def elseCommands : Option (List Statement) → List Command
  | none => []
  | some block =>
      .line [.words elseLine] :: inBlock (blockCommands block)

def armCommands : List (Expression × List Statement) → List Command
  | [] => []
  | (pattern, block) :: rest =>
      .line (armLine pattern) :: inBlock (blockCommands block) ++
        .line [.words closingLine] :: armCommands rest

def fallbackCommands : Option (List Statement) → List Command
  | none => [.line [.words emptyFallbackLine]]
  | some block =>
      .line [.words fallbackLine] :: inBlock (blockCommands block) ++
        [.line [.words closingLine]]

end

mutual

theorem run_statementCommands (level : Nat) (statement : Statement) :
    run level (statementCommands statement) =
      some (layoutStatement level statement, level) := by
  match statement with
  | .loop header body =>
      have inner := run_blockCommands (level + 1) body
      rw [statementCommands, layoutStatement]
      exact run_append (run_line _ (run_inBlock inner)) rfl
  | .conditional condition thenBlock elseBlock =>
      have inner := run_blockCommands (level + 1) thenBlock
      have other := run_elseCommands level elseBlock
      rw [statementCommands, layoutStatement]
      exact run_append (run_append (run_line _ (run_inBlock inner)) other) rfl
  | .choice subject arms fallback =>
      have inner := run_append (run_armCommands (level + 1) arms)
        (run_fallbackCommands (level + 1) fallback)
      rw [statementCommands, layoutStatement]
      exact run_append (run_line _ (run_inBlock inner)) rfl
  | .bindText target text => rfl
  | .bindClasses target value => rfl
  | .bindScript target value => rfl
  | .bindUrl target value => rfl
  | .writeText text => rfl
  | .writeTemporary source => rfl
  | .writeEscaped value => rfl
  | .writeEscapedTemporary source => rfl
  | .writeCall source => rfl
  | .renderStyles source => rfl
  | .renderScripts sources => rfl
  | .renderComponent component => rfl
  | .rejected tag => rfl

theorem run_blockCommands (level : Nat) (block : List Statement) :
    run level (blockCommands block) = some (layoutBlock level block, level) := by
  match block with
  | [] => rfl
  | statement :: rest =>
      rw [blockCommands, layoutBlock]
      exact run_append (run_statementCommands level statement)
        (run_blockCommands level rest)

theorem run_elseCommands (level : Nat) (block : Option (List Statement)) :
    run level (elseCommands block) = some (layoutElse level block, level) := by
  match block with
  | none => rfl
  | some block =>
      rw [elseCommands, layoutElse]
      exact run_line _ (run_inBlock (run_blockCommands (level + 1) block))

theorem run_armCommands (level : Nat)
    (arms : List (Expression × List Statement)) :
    run level (armCommands arms) = some (layoutArms level arms, level) := by
  match arms with
  | [] => rfl
  | (pattern, block) :: rest =>
      have inner := run_blockCommands (level + 1) block
      rw [armCommands, layoutArms]
      exact run_append (run_line _ (run_inBlock inner))
        (run_line _ (run_armCommands level rest))

theorem run_fallbackCommands (level : Nat) (block : Option (List Statement)) :
    run level (fallbackCommands block) =
      some (layoutFallback level block, level) := by
  match block with
  | none => rfl
  | some block =>
      have inner := run_blockCommands (level + 1) block
      rw [fallbackCommands, layoutFallback]
      exact run_append (run_line _ (run_inBlock inner)) rfl

end

/-! ## Modules -/

/-- The header begins the block of its module and leaves it open. -/
def headerCommands (file : TemplateFile) (settings : Settings) : List Command :=
  (layoutBanner file settings).map Entry.command ++
    .indent :: (layoutImports file settings).map Entry.command

/-- A function between its signature and its end, behind a blank line. -/
def signedCommands (signature : Entry) (body : List Command) : List Command :=
  [.blank, signature.command] ++ inBlock body ++ [functionEnd.command]

/-- The closure of a component around the statements of its body. -/
def closureCommands (body : List Statement) : List Command :=
  closureOpening.command ::
    inBlock
      (closureStart.map Entry.command ++ blockCommands body ++
        [closureResult.command]) ++
    [closureEnd.command]

/-- What is done to write the function of a declaration. -/
def functionCommands : Declaration × List Statement → List Command
  | (.html template, body) =>
      signedCommands (htmlSignature template) (closureCommands body)
  | (.style template, _) =>
      signedCommands (styleSignature template)
        ((layoutBuilder template).map Entry.command)
  | (.script template, _) =>
      signedCommands (scriptSignature template)
        (recordOpening.command ::
          inBlock ((layoutRecord template).map Entry.command) ++
          [recordEnd.command])

def moduleCommands (file : TemplateFile) (settings : Settings) : List Command :=
  headerCommands file settings ++
    (moduleBodies file).flatMap functionCommands ++
    [.dedent, .line [.words closingLine]]

theorem run_layoutImports (file : TemplateFile) (settings : Settings) :
    run 1 ((layoutImports file settings).map Entry.command) =
      some (layoutImports file settings, 1) := by
  have runtime : ∀ item, (runtimeImport settings item).StandsAt 1 :=
    fun item => standsAt_of 1 (List.cons_ne_nil _ _)
  refine run_commands ?_
  intro entry member
  simp only [layoutImports, List.mem_append, List.mem_cons, List.not_mem_nil,
    or_false, List.mem_map] at member
  rcases member with (((rfl | rfl | rfl) | html) | style) | ⟨path, _, rfl⟩
  · exact standsAt_plain 1 lintDirective
  · exact standsAt_blank 1
  · exact runtime _
  · split at html
    · simp only [List.mem_cons, List.not_mem_nil, or_false] at html
      rcases html with rfl | rfl | rfl
      · exact runtime _
      · exact standsAt_plain 1 _
      · exact runtime _
    · cases html
  · split at style
    · rw [List.mem_singleton.mp style]
      exact runtime _
    · cases style
  · exact standsAt_of 1 (List.cons_ne_nil _ _)

theorem run_headerCommands (file : TemplateFile) (settings : Settings) :
    run 0 (headerCommands file settings) =
      some (layoutHeader file settings, 1) := by
  have banner : run 0 ((layoutBanner file settings).map Entry.command) =
      some (layoutBanner file settings, 0) := rfl
  exact run_append banner (run_layoutImports file settings)

theorem run_layoutBuilder (template : StyleTemplate) :
    run 2 ((layoutBuilder template).map Entry.command) =
      some (layoutBuilder template, 2) := by
  refine run_commands ?_
  intro entry member
  simp only [layoutBuilder, List.cons_append, List.mem_cons, List.mem_append,
    List.mem_map, List.not_mem_nil, or_false] at member
  rcases member with rfl | ⟨statement, _, rfl⟩ | rfl
  · exact standsAt_plain 2 _
  · cases statement <;> exact standsAt_of 2 (List.cons_ne_nil _ _)
  · exact standsAt_of 2 (List.cons_ne_nil _ _)

theorem run_signedCommands (name parameters : Expression) (result : String)
    {commands : List Command} {entries : List Entry}
    (ran : run 2 commands = some (entries, 2)) :
    run 1 (signedCommands (layoutSignature name parameters result) commands) =
      some ([.line .blank, layoutSignature name parameters result] ++ entries ++
        [functionEnd], 1) :=
  run_append (run_append rfl (run_inBlock ran)) rfl

theorem run_closureCommands (body : List Statement) :
    run 2 (closureCommands body) =
      some (closureOpening ::
        (closureStart ++ layoutBlock 3 body ++ [closureResult]) ++
          [closureEnd], 2) := by
  have inner : run 3 (closureStart.map Entry.command ++ blockCommands body ++
        [closureResult.command]) =
      some (closureStart ++ layoutBlock 3 body ++ [closureResult], 3) :=
    run_append (run_append rfl (run_blockCommands 3 body)) rfl
  exact run_append (run_line _ (run_inBlock inner)) rfl

/-- The function of a declaration stands a step inside of the module. -/
theorem run_functionCommands (function : Declaration × List Statement) :
    run 1 (functionCommands function) =
      some (layoutFunction function, 1) := by
  rcases function with ⟨template | template | template, body⟩
  · refine (run_signedCommands _ _ _ (run_closureCommands body)).trans ?_
    simp [layoutFunction, layoutHtml, htmlSignature]
  · exact run_signedCommands _ _ _ (run_layoutBuilder template)
  · rfl

/-- The header begins the module's block and leaves it open, so the level
behind it is one; the end of the module closes that block. -/
theorem run_moduleCommands (file : TemplateFile) (settings : Settings) :
    run 0 (moduleCommands file settings) =
      some (layoutModule file settings, 0) := by
  have functions : ∀ functions : List (Declaration × List Statement),
      run 1 (functions.flatMap functionCommands) =
        some (functions.flatMap layoutFunction, 1) := by
    intro functions
    induction functions with
    | nil => rfl
    | cons function rest inductionHypothesis =>
        exact run_append (run_functionCommands function) inductionHypothesis
  rw [layoutModule_eq]
  exact run_append
    (run_append (run_headerCommands file settings) (functions _)) rfl

end Templating.Code

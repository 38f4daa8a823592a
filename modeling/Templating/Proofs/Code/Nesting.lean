import Templating.Proofs.Code.Balance
import Templating.Proofs.Code.Level
import Templating.Proofs.Code.Origin

/-!
# Nested blocks

Every statement leaves the brackets as it found them: what a block opens is
closed behind it.  The header of a module opens the only brace that is closed
elsewhere, at the end of the module.
-/

namespace Templating.Code

/-! ## Statements -/

section Statements

attribute [local simp] filter_isMark_name filter_isMark_references

mutual

theorem balancedLines_layoutStatement (opened : List Bracket)
    (statement : Statement) :
    BalancedLines opened opened (layoutStatement (braces opened) statement) := by
  match statement with
  | .bindText target text =>
      refine balancedLines_closed [] (.written 'l') ?_ ?_ rfl closes_nil rfl
      · simp [lineMarks, isMark]
      · simp [symbols, Fragment.symbols]
  | .bindClasses target value =>
      refine balancedLines_closed ['(', '(', ')', '(', ')', ')']
        (.written 'l') ?_ ?_ rfl (closes_call.append closes_call).round rfl
      · simp [lineMarks, isMark]
      · simp [symbols, Fragment.symbols]
  | .bindScript target value =>
      refine balancedLines_closed ['(', ')', '(', ')'] (.written 'l') ?_ ?_ rfl
        (closes_call.append closes_call) rfl
      · simp [lineMarks, isMark]
      · simp [symbols, Fragment.symbols]
  | .bindUrl target value =>
      refine balancedLines_closed ['(', '(', ')', '(', ')', ')']
        (.written 'l') ?_ ?_ rfl (closes_call.append closes_call).round rfl
      · simp [lineMarks, isMark]
      · simp [symbols, Fragment.symbols]
  | .writeText text =>
      exact balancedLines_closed ['(', ')'] (.written 'w') rfl rfl rfl
        closes_call rfl
  | .writeTemporary source =>
      refine balancedLines_closed ['(', ')'] (.written 'w') ?_ ?_ rfl
        closes_call rfl
      · simp [lineMarks, isMark]
      · simp [symbols, Fragment.symbols]
  | .writeEscaped value =>
      exact balancedLines_closed ['(', '(', '(', ')', ')', ')'] (.written 'w')
        rfl rfl rfl closes_call.round.round rfl
  | .writeEscapedTemporary source =>
      refine balancedLines_closed ['(', '(', ')', ')'] (.written 'w') ?_ ?_ rfl
        closes_call.round rfl
      · simp [lineMarks, isMark]
      · simp [symbols, Fragment.symbols]
  | .writeCall source =>
      refine balancedLines_closed ['(', ')'] (.written 'w') ?_ ?_ rfl
        closes_call rfl
      · simp [lineMarks, isMark]
      · simp [symbols, Fragment.symbols]
  | .renderStyles source =>
      refine balancedLines_closed ['(', ')'] (.written 't') ?_ ?_ rfl
        closes_call rfl
      · simp [lineMarks, isMark]
      · simp [symbols, Fragment.symbols]
  | .renderScripts sources =>
      refine balancedLines_closed ['(', '[', ']', ')'] (.written 't') ?_ ?_ rfl
        closes_nil.square.round rfl
      · simp [lineMarks, isMark]
      · simp [symbols, Fragment.symbols]
  | .renderComponent component =>
      exact balancedLines_closed ['(', '(', ')', ')'] (.written 't') rfl rfl rfl
        closes_call.round rfl
  | .loop header body =>
      have inner := balancedLines_layoutBlock (.curly :: opened) body
      rw [braces_curly] at inner
      have opening : BalancedLines opened (.curly :: opened)
          [.of (braces opened) (loopLine header)] :=
        balancedLines_opening [] (.written 'f') rfl rfl rfl closes_nil rfl
      rw [layoutStatement]
      exact (opening.cons inner).append (balancedLines_closing rfl)
  | .conditional condition thenBlock elseBlock =>
      have inner := balancedLines_layoutBlock (.curly :: opened) thenBlock
      rw [braces_curly] at inner
      have opening : BalancedLines opened (.curly :: opened)
          [.of (braces opened) (conditionLine condition)] :=
        balancedLines_opening [] (.written 'i') rfl rfl rfl closes_nil rfl
      rw [layoutStatement]
      exact ((opening.cons inner).append
        (balancedLines_layoutElse opened elseBlock)).append
          (balancedLines_closing rfl)
  | .choice subject arms fallback =>
      have inner := (balancedLines_layoutArms (.curly :: opened) arms).append
        (balancedLines_layoutFallback (.curly :: opened) fallback)
      rw [braces_curly] at inner
      have opening : BalancedLines opened (.curly :: opened)
          [.of (braces opened) (choiceLine subject)] :=
        balancedLines_opening [] (.written 'm') rfl rfl rfl closes_nil rfl
      rw [layoutStatement]
      exact (opening.cons inner).append (balancedLines_closing rfl)
  | .rejected tag => exact balancedLines_nil opened

theorem balancedLines_layoutBlock (opened : List Bracket)
    (block : List Statement) :
    BalancedLines opened opened (layoutBlock (braces opened) block) := by
  match block with
  | [] => exact balancedLines_nil opened
  | statement :: rest =>
      rw [layoutBlock]
      exact (balancedLines_layoutStatement opened statement).append
        (balancedLines_layoutBlock opened rest)

/-- The other block of a condition closes the first, and is left open. -/
theorem balancedLines_layoutElse (opened : List Bracket)
    (block : Option (List Statement)) :
    BalancedLines (.curly :: opened) (.curly :: opened)
      (layoutElse (braces opened) block) := by
  match block with
  | none => exact balancedLines_nil _
  | some block =>
      have inner := balancedLines_layoutBlock (.curly :: opened) block
      rw [braces_curly] at inner
      have turn : BalancedLines (.curly :: opened) (.curly :: opened)
          [.plain (braces opened) elseLine] := by
        refine balancedLines_of (.written '\x7d') rfl (by decide) ?_ rfl
          (by decide)
        rw [braces_curly]
        rfl
      rw [layoutElse]
      exact turn.cons inner

theorem balancedLines_layoutArms (opened : List Bracket)
    (arms : List (Expression × List Statement)) :
    BalancedLines opened opened (layoutArms (braces opened) arms) := by
  match arms with
  | [] => exact balancedLines_nil opened
  | (pattern, block) :: rest =>
      have inner := balancedLines_layoutBlock (.curly :: opened) block
      rw [braces_curly] at inner
      have opening : BalancedLines opened (.curly :: opened)
          [.of (braces opened) (armLine pattern)] :=
        balancedLines_opening [] (.taken pattern.value) rfl rfl rfl
          closes_nil rfl
      have others := (balancedLines_closing rfl).cons
        (balancedLines_layoutArms opened rest)
      rw [layoutArms]
      exact (opening.cons inner).append others

theorem balancedLines_layoutFallback (opened : List Bracket)
    (block : Option (List Statement)) :
    BalancedLines opened opened (layoutFallback (braces opened) block) := by
  match block with
  | none =>
      exact balancedLines_closed ['\x7b', '\x7d'] (.written '_') rfl rfl rfl
        ⟨fun _ => rfl, by decide⟩ rfl
  | some block =>
      have inner := balancedLines_layoutBlock (.curly :: opened) block
      rw [braces_curly] at inner
      have opening : BalancedLines opened (.curly :: opened)
          [.plain (braces opened) fallbackLine] :=
        balancedLines_opening [] (.written '_') rfl rfl rfl closes_nil rfl
      rw [layoutFallback]
      exact (opening.cons inner).append (balancedLines_closing rfl)

end

end Statements

/-! ## Modules -/

theorem balancedLines_runtimeImport (settings : Settings) {item : String}
    (noMarks : item.toList.filter isMark = []) :
    BalancedLines [.curly] [.curly] [runtimeImport settings item] := by
  refine balancedLines_closed [] (.written 'u') ?_ rfl rfl closes_nil rfl
  simp [lineMarks, isMark, noMarks]

theorem balancedLines_imports (imports : List Expression) :
    BalancedLines [.curly] [.curly]
      (imports.map fun path =>
        .of 1 [.words "use ", .copied path, .words ";"]) := by
  rw [List.map_eq_flatMap]
  refine balancedLines_flatMap (fun path => ?_) imports
  exact balancedLines_closed [] (.written 'u') rfl rfl rfl closes_nil rfl

theorem balancedLines_layoutBanner (file : TemplateFile)
    (settings : Settings) :
    BalancedLines [] [.curly] (layoutBanner file settings) := by
  have banner : BalancedLines [] []
      [.of 0
        [.words "// Code generated by tempera@",
          .verbatim settings.bannerVersion, .words " DO NOT EDIT."]] :=
    balancedLines_closed [] (.written '/') rfl rfl rfl closes_nil rfl
  have opening : BalancedLines [] [.curly]
      [.of 0 [.words "pub mod ", .copied file.package, .words " \x7b"]] :=
    balancedLines_opening [] (.written 'p') rfl rfl rfl closes_nil rfl
  exact banner.cons ((balancedLines_blank []).cons opening)

theorem balancedLines_layoutImports (file : TemplateFile)
    (settings : Settings) :
    BalancedLines [.curly] [.curly] (layoutImports file settings) := by
  have lints : BalancedLines [.curly] [.curly] [.plain 1 lintDirective] :=
    balancedLines_closed ['[', '(', ')', ']'] (.written '#') (by decide +kernel)
      rfl rfl closes_call.square rfl
  have library := balancedLines_runtimeImport settings
    (show (" as tempera;".toList.filter isMark) = [] by decide)
  have scope := balancedLines_runtimeImport settings
    (show ("::RenderScope;".toList.filter isMark) = [] by decide)
  have stream : BalancedLines [.curly] [.curly] [.plain 1 "use ::std::io;"] :=
    balancedLines_closed [] (.written 'u') rfl rfl rfl closes_nil rfl
  have writer := balancedLines_runtimeImport settings
    (show ("::StringWriter;".toList.filter isMark) = [] by decide)
  have builder := balancedLines_runtimeImport settings
    (show ("::CssBuilder;".toList.filter isMark) = [] by decide)
  have start := lints.cons ((balancedLines_blank [.curly]).cons library)
  have html : BalancedLines [.curly] [.curly]
      (if file.hasHtml then
        [runtimeImport settings "::RenderScope;", .plain 1 "use ::std::io;",
          runtimeImport settings "::StringWriter;"]
      else []) := by
    split
    · exact scope.cons (stream.cons writer)
    · exact balancedLines_nil _
  have style : BalancedLines [.curly] [.curly]
      (if file.hasStyle then [runtimeImport settings "::CssBuilder;"]
        else []) := by
    split
    · exact builder
    · exact balancedLines_nil _
  exact ((start.append html).append style).append
    (balancedLines_imports file.imports)

/-- The header leaves the block of its module open. -/
theorem balancedLines_layoutHeader (file : TemplateFile)
    (settings : Settings) :
    BalancedLines [] [.curly] (layoutHeader file settings) :=
  (balancedLines_layoutBanner file settings).append
    (balancedLines_layoutImports file settings)

theorem balancedLines_layoutSignature (name parameters : Expression)
    {result : String} (noMarks : result.toList.filter isMark = []) :
    BalancedLines [.curly] [.curly, .curly]
      [layoutSignature name parameters result] := by
  refine balancedLines_opening ['(', ')'] (.written 'p') ?_ rfl rfl
    closes_call rfl
  simp [lineMarks, isMark, noMarks]

theorem balancedLines_functionEnd :
    BalancedLines [.curly, .curly] [.curly] [functionEnd] :=
  balancedLines_closing rfl

theorem balancedLines_closureOpening :
    BalancedLines [.curly, .curly] [.curly, .round, .curly, .curly]
      [closureOpening] := by
  have isMarked : lineMarks [.words
      ("tempera::component(move |" ++ closureParameters ++
        "| -> io::Result<()> \x7b")] = ['(', '(', ')', '\x7b'] := by
    decide +kernel
  refine balancedLines_of (.written 't') rfl (by decide) rfl ?_ ?_
  · rw [isMarked]
    rfl
  · rw [isMarked]
    decide

theorem balancedLines_layoutHtml (template : HtmlTemplate)
    (body : List Statement) :
    BalancedLines [.curly] [.curly] (layoutHtml template body) := by
  have signature := balancedLines_layoutSignature template.name
    template.parameters
    (show ("impl tempera::Component".toList.filter isMark) = [] by decide)
  have classes : BalancedLines [.curly, .round, .curly, .curly]
      [.curly, .round, .curly, .curly]
      [.plain 3 "scope.rendered_css_classes();"] :=
    balancedLines_closed ['(', ')'] (.written 's') rfl rfl rfl closes_call rfl
  have scripts : BalancedLines [.curly, .round, .curly, .curly]
      [.curly, .round, .curly, .curly]
      [.plain 3 "scope.rendered_scripts();"] :=
    balancedLines_closed ['(', ')'] (.written 's') rfl rfl rfl closes_call rfl
  have statements := balancedLines_layoutBlock
    [.curly, .round, .curly, .curly] body
  have result : BalancedLines [.curly, .round, .curly, .curly]
      [.curly, .round, .curly, .curly] [closureResult] :=
    balancedLines_closed ['(', '(', ')', ')'] (.written 'O') rfl rfl rfl
      closes_call.round rfl
  have finish : BalancedLines [.curly, .round, .curly, .curly] [.curly, .curly]
      [closureEnd] :=
    balancedLines_of (.written '\x7d') rfl (by decide) rfl rfl (by decide)
  have start := signature.cons
    (balancedLines_closureOpening.cons (classes.cons scripts))
  exact (start.append statements).append
    (result.cons (finish.cons balancedLines_functionEnd))

theorem balancedLines_layoutBuilder (template : StyleTemplate) :
    BalancedLines [.curly, .curly] [.curly, .curly]
      (layoutBuilder template) := by
  have builder : BalancedLines [.curly, .curly] [.curly, .curly]
      [.plain 2 "let mut css = CssBuilder::new();"] :=
    balancedLines_closed ['(', ')'] (.written 'l') rfl rfl rfl closes_call rfl
  have statements : BalancedLines [.curly, .curly] [.curly, .curly]
      ((template.properties.map lowerProperty).map
        (layoutStyleStatement 2)) := by
    rw [List.map_eq_flatMap]
    refine balancedLines_flatMap (fun statement => ?_) _
    cases statement with
    | pushText declaration =>
        exact balancedLines_closed ['(', ')'] (.written 'c') rfl rfl rfl
          closes_call rfl
    | pushComputed name value =>
        exact balancedLines_closed ['(', '(', ')', ')'] (.written 'c') rfl rfl
          rfl closes_call.round rfl
  have finish : BalancedLines [.curly, .curly] [.curly, .curly]
      [.of 2 [.words "css.finish(", .quoted template.name.value, .words ")"]] :=
    balancedLines_closed ['(', ')'] (.written 'c') rfl rfl rfl closes_call rfl
  rw [layoutBuilder]
  exact (builder.cons statements).append finish

theorem balancedLines_layoutStyle (template : StyleTemplate) :
    BalancedLines [.curly] [.curly] (layoutStyle template) := by
  have signature := balancedLines_layoutSignature template.name
    template.parameters
    (show ("tempera::ComponentCssClass".toList.filter isMark) = [] by decide)
  rw [layoutStyle]
  exact (signature.cons (balancedLines_layoutBuilder template)).append
    balancedLines_functionEnd

theorem closes_layoutArguments (arguments : List String) :
    Closes (lineMarks (layoutArguments arguments)) := by
  fun_induction layoutArguments arguments with
  | case1 => exact closes_nil
  | case2 argument => exact closes_call
  | case3 argument rest notLast inductionHypothesis =>
      exact closes_call.append inductionHypothesis

theorem balancedLines_layoutRecord (template : ScriptTemplate) :
    BalancedLines [.curly, .curly, .curly] [.curly, .curly, .curly]
      (layoutRecord template) := by
  have name : BalancedLines [.curly, .curly, .curly] [.curly, .curly, .curly]
      [.of 3 [.words "name: ", .quoted template.functionName,
        .words ".into(),"]] :=
    balancedLines_closed ['(', ')'] (.written 'n') rfl rfl rfl closes_call rfl
  have source : BalancedLines [.curly, .curly, .curly] [.curly, .curly, .curly]
      [.of 3 [.words "function: ", .quoted template.functionSource,
        .words ".into(),"]] :=
    balancedLines_closed ['(', ')'] (.written 'f') rfl rfl rfl closes_call rfl
  have call : BalancedLines [.curly, .curly, .curly] [.curly, .curly, .curly]
      [.of 3
        ([.words "call: tempera::safe_script(", .quoted template.functionName,
          .words ", &["] ++ layoutArguments template.arguments ++
          [.words "]),"])] := by
    have arguments := closes_layoutArguments template.arguments
    refine balancedLines_closed _ (.written 'c') ?_ rfl rfl
      arguments.square.round rfl
    rw [lineMarks_append, lineMarks_append]
    simp [lineMarks, isMark]
  exact name.cons (source.cons call)

theorem balancedLines_layoutScript (template : ScriptTemplate) :
    BalancedLines [.curly] [.curly] (layoutScript template) := by
  have signature := balancedLines_layoutSignature template.name
    template.parameters
    (show ("tempera::ComponentScript".toList.filter isMark) = [] by decide)
  have opening : BalancedLines [.curly, .curly] [.curly, .curly, .curly]
      [recordOpening] :=
    balancedLines_opening [] (.written 't') rfl rfl rfl closes_nil rfl
  have close : BalancedLines [.curly, .curly, .curly] [.curly, .curly]
      [recordEnd] :=
    balancedLines_closing rfl
  rw [layoutScript]
  exact (signature.cons
    (opening.cons (balancedLines_layoutRecord template))).append
      (close.cons balancedLines_functionEnd)

/-- The function of a declaration stands in the block of its module. -/
theorem balancedLines_layoutFunction
    (function : Declaration × List Statement) :
    BalancedLines [.curly] [.curly] (layoutFunction function) := by
  have blank := balancedLines_blank [.curly]
  rcases function with ⟨template | template | template, body⟩
  · exact blank.cons (balancedLines_layoutHtml template body)
  · exact blank.cons (balancedLines_layoutStyle template)
  · exact blank.cons (balancedLines_layoutScript template)

theorem balancedLines_layoutModule (file : TemplateFile)
    (settings : Settings) :
    BalancedLines [] [] (layoutModule file settings) := by
  rw [layoutModule_eq]
  exact ((balancedLines_layoutHeader file settings).append
    (balancedLines_flatMap balancedLines_layoutFunction _)).append
      (balancedLines_closing rfl)

/-! ## Given texts -/

theorem isGiven_of_taken_lowerNodes {nodes : List Node} {last depth : Nat}
    (accepted : rejectedIn? nodes = none) {piece : String}
    (taken : .taken piece ∈
      codeSymbols (layoutBlock depth (lowerNodes nodes last).1)) :
    IsGiven (nodeExpressions nodes) [] piece := by
  have expressions := expressions_lowerNodes nodes last accepted
  refine (isGiven_of_taken taken).mono (fun expression copied => ?_)
    (fun other foreign => ?_)
  · rw [copies_flatMap_content, copies_layoutBlock] at copied
    exact expressions.mem_iff.mp copied
  · rwa [verbatims_flatMap_content, verbatims_layoutBlock] at foreign

theorem isGiven_of_taken_layoutModule {file : TemplateFile}
    {settings : Settings} (accepted : file.rejectedTag? = none) {piece : String}
    (taken : .taken piece ∈ codeSymbols (layoutModule file settings)) :
    IsGiven file.expressions
      (settings.texts ++ file.declarations.flatMap Declaration.bindings)
      piece := by
  have expressions := copies_layoutModule settings accepted
  exact (isGiven_of_taken taken).mono
    (fun _ copied => expressions.mem_iff.mp copied)
    (fun _ foreign => mem_verbatims_layoutModule foreign)

end Templating.Code

namespace Templating

open Code

/-- Code is written at a level that every block leaves as it was, and that is
zero behind a module; only the header of a module leaves its block to the end of
the module.  The level never goes below zero.  All brackets in the code are
nested and closed, and each line stands as deep as there are braces open, when
literals and the texts that the generator was given are not looked into. -/
theorem generate_balanced (settings : Settings) :
    (∀ level block,
      run level (blockCommands block) =
        some (layoutBlock level block, level)) ∧
    (∀ nodes last opened, rejectedIn? nodes = none →
      let text := symbols (acceptedFragments
        (layoutBlock (braces opened) (lowerNodes nodes last).1))
      Balanced opened opened text ∧
        ∀ piece, .taken piece ∈ text →
          IsGiven (nodeExpressions nodes) [] piece) ∧
    ∀ file generated, generate file settings = .ok generated →
      let text := symbols (acceptedFragments (layoutModule file settings))
      run 0 (headerCommands file settings) =
          some (layoutHeader file settings, 1) ∧
        (∀ function ∈ moduleBodies file,
          run 1 (functionCommands function) =
            some (layoutFunction function, 1)) ∧
        run 0 (moduleCommands file settings) =
          some (layoutModule file settings, 0) ∧
        generated.code.toList = text.flatMap Symbol.characters ∧
        Balanced [] [] text ∧
        ∀ piece, .taken piece ∈ text →
          IsGiven file.expressions
            (settings.texts ++ file.declarations.flatMap Declaration.bindings)
            piece := by
  refine ⟨run_blockCommands, ?_, ?_⟩
  · intro nodes last opened accepted
    have whole := firstRejected?_lowerNodes (braces opened) nodes last
    rw [accepted] at whole
    rw [acceptedFragments_eq whole]
    exact ⟨balancedLines_layoutBlock opened _,
      fun _ => isGiven_of_taken_lowerNodes accepted⟩
  · intro file generated ok
    rcases generate_eq_ok ok with ⟨accepted, code, -⟩
    have whole := firstRejected?_layoutModule file settings
    rw [accepted] at whole
    rw [acceptedFragments_eq whole]
    refine ⟨run_headerCommands file settings,
      fun function _ => run_functionCommands function,
      run_moduleCommands file settings, ?_,
      balancedLines_layoutModule file settings,
      fun _ => isGiven_of_taken_layoutModule accepted⟩
    rw [code, toList_fragmentsText]

/-- Books with a mark each, in every form of block. -/
def shelfItems : List Node :=
  [.element "ul" false
    [.conditional "hidden" ⟨"closed", default⟩,
      .computed "class" ⟨"list()", default⟩,
      .computed "onclick" ⟨"open(name, 1)", default⟩]
    [.loop ⟨"book in books", default⟩
      [.conditional ⟨"book.sold", default⟩ [.text "sold"]
          (some [.interpolation ⟨"book.title", default⟩]),
        .choice ⟨"book.kind", default⟩
          [(⟨"Kind::Novel", default⟩, [.text "novel"])] none]]]

def shelf : TemplateFile where
  package := ⟨"shelf", default⟩
  imports := [⟨"crate::Book", default⟩]
  declarations :=
    [.html
      { name := ⟨"shelf", default⟩
        parameters := ⟨"name: &str, books: &[Book]", default⟩
        children := shelfItems },
      .style
        { name := ⟨"list", default⟩
          parameters := ⟨"", default⟩
          properties := [.constant "color" "red",
            .computed "width" ⟨"width()", default⟩] },
      .script
        { name := ⟨"open", default⟩
          parameters := ⟨"name: &str, count: usize", default⟩
          body := "show(name, count)" }]

theorem generate_balanced_shelf :
    rejectedIn? shelfItems = none ∧
      Balanced [] [] (symbols (acceptedFragments
        (layoutBlock 0 (lowerNodes shelfItems 0).1))) ∧
      ∃ generated, generate shelf default = .ok generated ∧
        run 0 (moduleCommands shelf default) =
          some (layoutModule shelf default, 0) ∧
        Balanced [] [] (symbols (acceptedFragments
          (layoutModule shelf default))) := by
  have accepted : rejectedIn? shelfItems = none := rfl
  rcases generate_balanced default with ⟨-, nodes, files⟩
  have ok : generate shelf default = .ok _ := generate_of_accepted rfl
  rcases files shelf _ ok with ⟨-, -, ran, -, balanced, -⟩
  exact ⟨accepted, (nodes shelfItems 0 [] accepted).1, _, ok, ran, balanced⟩

end Templating

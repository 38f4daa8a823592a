import Templating.Proofs.Code.Acceptance

/-!
# Printed statements

What statements look like in the generated code, written out form by form.  The
forms are spelled here once more, and not put together from named lines, because
they say what the generated code is; everything else about the code is stated of
the lines.  The lines that are laid out for statements are exactly this text, so
the function of an HTML template is a fixed frame around the printed statements
of its body.
-/

namespace Templating.Code

/-! ## Texts of lines -/

@[simp]
theorem fragmentsText_nil : fragmentsText [] = "" := rfl

@[simp]
theorem fragmentsText_cons (fragment : Fragment) (rest : List Fragment) :
    fragmentsText (fragment :: rest) = fragment.text ++ fragmentsText rest := by
  simp [fragmentsText, String.join_cons]

@[simp]
theorem fragmentsText_append (first second : List Fragment) :
    fragmentsText (first ++ second) =
      fragmentsText first ++ fragmentsText second := by
  induction first with
  | nil => simp
  | cons fragment rest inductionHypothesis =>
      simp only [List.cons_append, fragmentsText_cons, inductionHypothesis,
        String.append_assoc]

/-- The text of lines in order. -/
def entriesText (entries : List Entry) : String :=
  fragmentsText (entries.flatMap Entry.content)

/-- A line of code at a depth. -/
def printedLine (depth : Nat) (text : String) : String :=
  String.join (List.replicate depth indentUnit) ++ text ++ "\n"

@[simp]
theorem entriesText_nil : entriesText [] = "" := rfl

@[simp]
theorem entriesText_append (first second : List Entry) :
    entriesText (first ++ second) = entriesText first ++ entriesText second := by
  rw [entriesText, List.flatMap_append, fragmentsText_append]
  rfl

@[simp]
theorem entriesText_of (depth : Nat) (fragments : List Fragment)
    (rest : List Entry) :
    entriesText (.of depth fragments :: rest) =
      printedLine depth (fragmentsText fragments) ++ entriesText rest := by
  have indentation :
      fragmentsText (List.replicate depth (.words indentUnit)) =
        String.join (List.replicate depth indentUnit) := by
    rw [fragmentsText, List.map_replicate]
    rfl
  rw [entriesText, List.flatMap_cons, fragmentsText_append]
  show fragmentsText (List.replicate depth (.words indentUnit) ++ fragments ++
    [.words "\n"]) ++ _ = _
  simp only [fragmentsText_append, indentation, fragmentsText_cons,
    fragmentsText_nil, Fragment.text, String.append_empty, printedLine]
  rfl

@[simp]
theorem entriesText_plain (depth : Nat) (text : String) (rest : List Entry) :
    entriesText (.plain depth text :: rest) =
      printedLine depth text ++ entriesText rest := by
  have line := entriesText_of depth [.words text] rest
  simp only [fragmentsText_cons, fragmentsText_nil, Fragment.text,
    String.append_empty] at line
  exact line

/-! ## Statements -/

mutual

/-- A statement at a depth. -/
def Statement.printed (depth : Nat) : Statement → String
  | .bindText target text =>
      printedLine depth ("let " ++ target.name ++ " = " ++ literal text ++ ";")
  | .bindClasses target value =>
      printedLine depth ("let " ++ target.name ++
        " = tempera::CssClasses::from((" ++ value.value ++ ").clone());")
  | .bindScript target value =>
      printedLine depth ("let " ++ target.name ++
        ": tempera::ComponentScript = (" ++ value.value ++ ").clone();")
  | .bindUrl target value =>
      printedLine depth ("let " ++ target.name ++
        " = tempera::SafeUrl::from((" ++ value.value ++ ").clone());")
  | .writeText text =>
      printedLine depth ("w.write_str(" ++ literal text ++ ")?;")
  | .writeTemporary source =>
      printedLine depth ("w.write_str(" ++ source.name ++ ")?;")
  | .writeEscaped value =>
      printedLine depth
        ("w.write_str(&tempera::escape_string(&(" ++ value.value ++ ")))?;")
  | .writeEscapedTemporary source =>
      printedLine depth
        ("w.write_str(&tempera::escape_string(&" ++ source.name ++ "))?;")
  | .writeCall source =>
      printedLine depth ("w.write_str(&" ++ source.name ++ ".call)?;")
  | .renderStyles source =>
      printedLine depth
        ("tempera::render_css(scope, w, &" ++ source.name ++ ")?;")
  | .renderScripts sources =>
      printedLine depth ("tempera::render_scripts(scope, w, &[" ++
        ", ".intercalate (sources.map fun source => "&" ++ source.name) ++
        "])?;")
  | .renderComponent component =>
      printedLine depth ("tempera::Component::render_buffered(&(" ++
        component.value ++ "), scope, w)?;")
  | .loop header body =>
      printedLine depth ("for " ++ header.value ++ " \x7b") ++
        printedBlock (depth + 1) body ++ printedLine depth "\x7d"
  | .conditional condition thenBlock elseBlock =>
      printedLine depth ("if " ++ condition.value ++ " \x7b") ++
        printedBlock (depth + 1) thenBlock ++ printedElse depth elseBlock ++
        printedLine depth "\x7d"
  | .choice subject arms fallback =>
      printedLine depth ("match " ++ subject.value ++ " \x7b") ++
        printedArms (depth + 1) arms ++ printedFallback (depth + 1) fallback ++
        printedLine depth "\x7d"
  | .rejected _ => ""

/-- The statements of a block at a depth. -/
def printedBlock (depth : Nat) : List Statement → String
  | [] => ""
  | statement :: rest => statement.printed depth ++ printedBlock depth rest

/-- The other block of a condition. -/
def printedElse (depth : Nat) : Option (List Statement) → String
  | none => ""
  | some block =>
      printedLine depth "\x7d else \x7b" ++ printedBlock (depth + 1) block

/-- The arms of a match without its last. -/
def printedArms (depth : Nat) : List (Expression × List Statement) → String
  | [] => ""
  | (pattern, block) :: rest =>
      printedLine depth (pattern.value ++ " => \x7b") ++
        printedBlock (depth + 1) block ++ printedLine depth "\x7d" ++
        printedArms depth rest

/-- The last arm of a match. -/
def printedFallback (depth : Nat) : Option (List Statement) → String
  | none => printedLine depth "_ => \x7b\x7d"
  | some block =>
      printedLine depth "_ => \x7b" ++ printedBlock (depth + 1) block ++
        printedLine depth "\x7d"

end

mutual

theorem entriesText_layoutStatement (depth : Nat) (statement : Statement) :
    entriesText (layoutStatement depth statement) =
      statement.printed depth := by
  cases statement with
  | loop header body =>
      have inner := entriesText_layoutBlock (depth + 1) body
      simp [layoutStatement, closingLine, Statement.printed, inner,
        Fragment.text, String.append_assoc]
  | conditional condition thenBlock elseBlock =>
      have inner := entriesText_layoutBlock (depth + 1) thenBlock
      have other := entriesText_layoutElse depth elseBlock
      simp [layoutStatement, closingLine, Statement.printed, inner, other,
        Fragment.text, String.append_assoc]
  | choice subject arms fallback =>
      have inner := entriesText_layoutArms (depth + 1) arms
      have other := entriesText_layoutFallback (depth + 1) fallback
      simp [layoutStatement, closingLine, Statement.printed, inner, other,
        Fragment.text, String.append_assoc]
  | rejected tag => rfl
  | _ =>
      simp [layoutStatement, Statement.printed, references, Fragment.text,
        String.append_assoc]

theorem entriesText_layoutBlock (depth : Nat) (block : List Statement) :
    entriesText (layoutBlock depth block) = printedBlock depth block := by
  cases block with
  | nil => rfl
  | cons statement rest =>
      rw [layoutBlock, entriesText_append, printedBlock,
        entriesText_layoutStatement depth statement,
        entriesText_layoutBlock depth rest]

theorem entriesText_layoutElse (depth : Nat)
    (block : Option (List Statement)) :
    entriesText (layoutElse depth block) = printedElse depth block := by
  cases block with
  | none => rfl
  | some block =>
      rw [layoutElse, entriesText_plain, printedElse, elseLine,
        entriesText_layoutBlock (depth + 1) block]

theorem entriesText_layoutArms (depth : Nat)
    (arms : List (Expression × List Statement)) :
    entriesText (layoutArms depth arms) = printedArms depth arms := by
  match arms with
  | [] => rfl
  | (pattern, block) :: rest =>
      have inner := entriesText_layoutBlock (depth + 1) block
      have others := entriesText_layoutArms depth rest
      simp [layoutArms, closingLine, printedArms, inner, others, Fragment.text,
        String.append_assoc]

theorem entriesText_layoutFallback (depth : Nat)
    (block : Option (List Statement)) :
    entriesText (layoutFallback depth block) = printedFallback depth block := by
  cases block with
  | none => simp [layoutFallback, emptyFallbackLine, printedFallback]
  | some block =>
      have inner := entriesText_layoutBlock (depth + 1) block
      simp [layoutFallback, fallbackLine, closingLine, printedFallback, inner,
        String.append_assoc]

end

/-! ## Functions -/

/-- The function of an HTML template with these statements in its body. -/
def printedHtml (template : HtmlTemplate) (body : List Statement) : String :=
  printedLine 1 ("pub fn " ++ template.name.value ++ "(" ++
      template.parameters.value ++ ") -> impl tempera::Component \x7b") ++
    printedLine 2 ("tempera::component(move |scope: &mut RenderScope, " ++
      "w: &mut StringWriter<'_>| -> io::Result<()> \x7b") ++
    printedLine 3 "scope.rendered_css_classes();" ++
    printedLine 3 "scope.rendered_scripts();" ++
    printedBlock 3 body ++
    printedLine 3 "Ok(())" ++
    printedLine 2 "\x7d)" ++
    printedLine 1 "\x7d"

/-- The function of a declaration with these statements in its body, behind a
blank line. -/
def printedFunction : Declaration × List Statement → String
  | (.html template, body) => "\n" ++ printedHtml template body
  | (.style template, _) => "\n" ++ entriesText (layoutStyle template)
  | (.script template, _) => "\n" ++ entriesText (layoutScript template)

theorem entriesText_blank (rest : List Entry) :
    entriesText (.line .blank :: rest) = "\n" ++ entriesText rest := by
  have line := entriesText_of 0 [] rest
  rwa [fragmentsText_nil] at line

theorem entriesText_layoutHtml (template : HtmlTemplate)
    (body : List Statement) :
    entriesText (layoutHtml template body) = printedHtml template body := by
  have result : ") -> " ++ "impl tempera::Component" ++ " \x7b" =
      ") -> impl tempera::Component \x7b" := by
    decide
  have opening : "tempera::component(move |" ++ closureParameters ++
      "| -> io::Result<()> \x7b" =
        "tempera::component(move |scope: &mut RenderScope, " ++
          "w: &mut StringWriter<'_>| -> io::Result<()> \x7b" := by
    decide
  rw [layoutHtml, htmlSignature, layoutSignature, closureOpening, printedHtml,
    result, opening]
  simp only [closureStart, closureResult, closureEnd, functionEnd, closingLine,
    List.cons_append, List.nil_append, entriesText_of, entriesText_plain,
    entriesText_append, entriesText_nil, entriesText_layoutBlock,
    fragmentsText_cons, fragmentsText_nil, Fragment.text, String.append_empty,
    String.append_assoc]

theorem entriesText_layoutFunction (function : Declaration × List Statement) :
    entriesText (layoutFunction function) = printedFunction function := by
  rcases function with ⟨declaration, body⟩
  cases declaration with
  | html template =>
      rw [layoutFunction, entriesText_blank, entriesText_layoutHtml,
        printedFunction]
  | style template => exact entriesText_blank (layoutStyle template)
  | script template => exact entriesText_blank (layoutScript template)

theorem entriesText_flatMap_layoutFunction
    (functions : List (Declaration × List Statement)) :
    entriesText (functions.flatMap layoutFunction) =
      String.join (functions.map printedFunction) := by
  induction functions with
  | nil => rfl
  | cons function rest inductionHypothesis =>
      rw [List.flatMap_cons, entriesText_append, entriesText_layoutFunction,
        inductionHypothesis, List.map_cons, String.join_cons]

theorem entriesText_layoutModule (file : TemplateFile) (settings : Settings) :
    entriesText (layoutModule file settings) =
      entriesText (layoutHeader file settings) ++
        String.join ((moduleBodies file).map printedFunction) ++
        printedLine 0 "\x7d" := by
  rw [layoutModule_eq, entriesText_append, entriesText_append,
    entriesText_flatMap_layoutFunction, entriesText_plain, entriesText_nil,
    String.append_empty]

end Templating.Code

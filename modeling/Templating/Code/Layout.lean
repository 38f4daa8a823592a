import Templating.Code.Line
import Templating.Code.Statement

/-!
# Layout of statements

The lines of every statement form.  The lines of a block are one step deeper
than the line that opens it.
-/

namespace Templating.Code

/-! ## Lines around blocks -/

/-- The line that opens a loop. -/
@[simp]
def loopLine (header : Expression) : List Fragment :=
  [.words "for ", .copied header, .words " \x7b"]

/-- The line that opens the first block of a condition. -/
@[simp]
def conditionLine (condition : Expression) : List Fragment :=
  [.words "if ", .copied condition, .words " \x7b"]

/-- The line between the blocks of a condition. -/
def elseLine : String := "\x7d else \x7b"

/-- The line that opens a choice. -/
@[simp]
def choiceLine (subject : Expression) : List Fragment :=
  [.words "match ", .copied subject, .words " \x7b"]

/-- The line that opens the arm of a pattern. -/
@[simp]
def armLine (pattern : Expression) : List Fragment :=
  [.copied pattern, .words " => \x7b"]

/-- The line that opens the last arm of a choice. -/
def fallbackLine : String := "_ => \x7b"

/-- The last arm of a choice if there is nothing to do in it. -/
def emptyFallbackLine : String := "_ => \x7b\x7d"

/-- The line that closes a block. -/
def closingLine : String := "\x7d"

/-! ## Statements -/

/-- Temporaries as a list of references. -/
def references (sources : List Temporary) : String :=
  ", ".intercalate (sources.map fun source => "&" ++ source.name)

mutual

/-- The lines of a statement at a depth. -/
def layoutStatement (depth : Nat) : Statement → List Entry
  | .bindText target text =>
      [.of depth
        [.words ("let " ++ target.name ++ " = "), .quoted text, .words ";"]]
  | .bindClasses target value =>
      [.of depth
        [.words ("let " ++ target.name ++ " = tempera::CssClasses::from(("),
          .copied value, .words ").clone());"]]
  | .bindScript target value =>
      [.of depth
        [.words ("let " ++ target.name ++ ": tempera::ComponentScript = ("),
          .copied value, .words ").clone();"]]
  | .bindUrl target value =>
      [.of depth
        [.words ("let " ++ target.name ++ " = tempera::SafeUrl::from(("),
          .copied value, .words ").clone());"]]
  | .writeText text =>
      [.of depth [.words "w.write_str(", .quoted text, .words ")?;"]]
  | .writeTemporary source =>
      [.plain depth ("w.write_str(" ++ source.name ++ ")?;")]
  | .writeEscaped value =>
      [.of depth
        [.words "w.write_str(&tempera::escape_string(&(", .copied value,
          .words ")))?;"]]
  | .writeEscapedTemporary source =>
      [.plain depth
        ("w.write_str(&tempera::escape_string(&" ++ source.name ++ "))?;")]
  | .writeCall source =>
      [.plain depth ("w.write_str(&" ++ source.name ++ ".call)?;")]
  | .renderStyles source =>
      [.plain depth ("tempera::render_css(scope, w, &" ++ source.name ++ ")?;")]
  | .renderScripts sources =>
      [.plain depth
        ("tempera::render_scripts(scope, w, &[" ++ references sources ++ "])?;")]
  | .renderComponent component =>
      [.of depth
        [.words "tempera::Component::render_buffered(&(", .copied component,
          .words "), scope, w)?;"]]
  | .loop header body =>
      .of depth (loopLine header) ::
        layoutBlock (depth + 1) body ++ [.plain depth closingLine]
  | .conditional condition thenBlock elseBlock =>
      .of depth (conditionLine condition) ::
        layoutBlock (depth + 1) thenBlock ++ layoutElse depth elseBlock ++
        [.plain depth closingLine]
  | .choice subject arms fallback =>
      .of depth (choiceLine subject) ::
        layoutArms (depth + 1) arms ++ layoutFallback (depth + 1) fallback ++
        [.plain depth closingLine]
  | .rejected tag => [.rejected tag]

/-- The lines of statements in order. -/
def layoutBlock (depth : Nat) : List Statement → List Entry
  | [] => []
  | statement :: rest => layoutStatement depth statement ++ layoutBlock depth rest

/-- The other block of a condition, if there is one. -/
def layoutElse (depth : Nat) : Option (List Statement) → List Entry
  | none => []
  | some block =>
      .plain depth elseLine :: layoutBlock (depth + 1) block

/-- One arm for each pattern. -/
def layoutArms (depth : Nat) : List (Expression × List Statement) → List Entry
  | [] => []
  | (pattern, block) :: rest =>
      .of depth (armLine pattern) ::
        layoutBlock (depth + 1) block ++ .plain depth closingLine ::
        layoutArms depth rest

/-- The arm that takes whatever no pattern took. -/
def layoutFallback (depth : Nat) : Option (List Statement) → List Entry
  | none => [.plain depth emptyFallbackLine]
  | some block =>
      .plain depth fallbackLine :: layoutBlock (depth + 1) block ++
        [.plain depth closingLine]

end

/-- The line of a style statement. -/
def layoutStyleStatement (depth : Nat) : StyleStatement → Entry
  | .pushText declaration =>
      .of depth [.words "css.push_str(", .quoted declaration, .words ");"]
  | .pushComputed name value =>
      .of depth
        [.words "css.push_css(tempera::sanitize_css(", .quoted name, .words ", ",
          .copied value, .words "));"]

end Templating.Code

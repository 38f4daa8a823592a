import Templating.Code.Module
import Templating.Proofs.Code.Literals
import Templating.Proofs.Digest.Identifier
import Templating.Proofs.Render.Delivery

/-!
# Scripts of one name

A script is put on the page once for each name, so its name has to say which
function it is.  The name is made of the template's name and of a digest of its
body; the parameters are not in it.  As long as digests of different bodies
differ, scripts of one name differ in nothing but their parameters, and where
those agree as well no function is left out for a different one.
-/

namespace Templating.Code

/-! ## Scripts as they are generated -/

/-- The literal that the generated function of a script template gives to a
field of its result. -/
def scriptField? (field : String) (template : ScriptTemplate) : Option String :=
  (layoutScript template).findSome? fun
    | .line ⟨_, [.words label, .quoted text, .words ".into(),"]⟩ =>
        if label = field ++ ": " then some (literal text) else none
    | _ => none

theorem scriptField?_name (template : ScriptTemplate) :
    scriptField? "name" template = some (literal template.functionName) := by
  rfl

theorem scriptField?_function (template : ScriptTemplate) :
    scriptField? "function" template =
      some (literal template.functionSource) := by
  rfl

/-- The code is a literal of the text. -/
def Evaluates (code text : String) : Prop :=
  ∃ kind, Literal.read? code.toList = some ⟨kind, text.toList, []⟩

theorem evaluates_literal {text other : String} :
    Evaluates (literal text) other ↔ other = text := by
  rcases Literal.read?_literalChars text.toList [] with ⟨kind, _, _, read⟩
  rw [List.append_nil] at read
  rw [Evaluates, literal, String.toList_ofList, read]
  constructor
  · rintro ⟨_, same⟩
    rw [Option.some.injEq, Literal.Reading.mk.injEq] at same
    exact (String.toList_injective same.2.1).symm
  · rintro rfl
    exact ⟨kind, rfl⟩

/-- The generated function of the template returns such a script: its name and
its function are what the literals evaluate to. -/
structure Returns (template : ScriptTemplate) (script : Render.Script) :
    Prop where
  name : ∃ code, scriptField? "name" template = some code ∧
    Evaluates code script.name
  function : ∃ code, scriptField? "function" template = some code ∧
    Evaluates code script.function

theorem returns_iff {template : ScriptTemplate} {script : Render.Script} :
    Returns template script ↔ script.name = template.functionName ∧
      script.function = template.functionSource := by
  constructor
  · rintro ⟨⟨code, field, evaluates⟩, ⟨source, isSource, evaluatesSource⟩⟩
    rw [scriptField?_name, Option.some.injEq] at field
    rw [scriptField?_function, Option.some.injEq] at isSource
    subst field isSource
    exact ⟨evaluates_literal.mp evaluates,
      evaluates_literal.mp evaluatesSource⟩
  · rintro ⟨name, function⟩
    exact ⟨⟨_, scriptField?_name template, evaluates_literal.mpr name⟩,
      ⟨_, scriptField?_function template, evaluates_literal.mpr function⟩⟩

/-- The parameters as they are written in the function. -/
def parameterText (template : ScriptTemplate) : String :=
  ", ".intercalate template.arguments

/-! ## Names and functions -/

/-- Different bodies among these templates have different digits in their
names. -/
def Distinguished (templates : List ScriptTemplate) : Prop :=
  ∀ first ∈ templates, ∀ second ∈ templates,
    Digest.hexPrefix first.body Digest.keptDigits =
        Digest.hexPrefix second.body Digest.keptDigits →
      first.body = second.body

theorem functionSource_inj {first second : ScriptTemplate}
    (sameName : first.functionName = second.functionName)
    (sameBody : first.body = second.body) :
    first.functionSource = second.functionSource ↔
      parameterText first = parameterText second := by
  show "function " ++ first.functionName ++ "(" ++ parameterText first ++
        ")\x7b" ++ Text.trimmed first.body ++ "\x7d" =
      "function " ++ second.functionName ++ "(" ++ parameterText second ++
        ")\x7b" ++ Text.trimmed second.body ++ "\x7d" ↔ _
  rw [sameName, sameBody, String.append_left_inj, String.append_left_inj,
    String.append_left_inj, String.append_right_inj]

variable {templates : List ScriptTemplate}

theorem scriptField?_inj (distinguished : Distinguished templates)
    {first second : ScriptTemplate} (isFirst : first ∈ templates)
    (isSecond : second ∈ templates)
    (same : scriptField? "name" first = scriptField? "name" second) :
    first.name.value = second.name.value ∧ first.body = second.body ∧
      (scriptField? "function" first = scriptField? "function" second ↔
        parameterText first = parameterText second) := by
  rw [scriptField?_name, scriptField?_name, Option.some.injEq] at same
  have sameName := literal_injective same
  rcases Digest.functionIdentifier_inj.mp sameName with ⟨names, digits⟩
  have sameBody := distinguished first isFirst second isSecond digits
  refine ⟨names, sameBody, ?_⟩
  rw [scriptField?_function, scriptField?_function, Option.some.injEq,
    ← functionSource_inj sameName sameBody]
  exact ⟨literal_injective, congrArg literal⟩

/-! ## Functions on the page -/

open Render

/-- `ScriptsWritten templates scope written`: calls with scripts of these
templates have written these functions in the scope and registered nothing else.
A copy of the scope is as good as the scope. -/
inductive ScriptsWritten (templates : List ScriptTemplate) :
    Scope → List (String × String) → Prop where
  | none {scope : Scope} (empty : scope.writtenScripts.names = []) :
      ScriptsWritten templates scope []
  | call {depth : Nat} {stage after : Stage depth} {used : List Script}
      {written : List (String × String)}
      (before : ScriptsWritten templates stage.scope written)
      (returned : ∀ script ∈ used, ∃ template ∈ templates,
        Returns template script)
      (ok : renderScripts used stage = .ok () after) :
      ScriptsWritten templates after.scope
        (written ++ firstOccurrences stage.scope.writtenScripts.names
          (namedScripts used))
  | other {scope next : Scope} {written : List (String × String)}
      (before : ScriptsWritten templates scope written)
      (same : next.scripts = scope.scripts) :
      ScriptsWritten templates next written

/-- The function of a template under its name. -/
def scriptEntry (template : ScriptTemplate) : String × String :=
  (template.functionName, template.functionSource)

theorem entry_of_returned {used : List Script}
    (returned : ∀ script ∈ used, ∃ template ∈ templates,
      Returns template script)
    {entry : String × String} (member : entry ∈ namedScripts used) :
    ∃ template ∈ templates, entry = scriptEntry template := by
  rcases List.mem_map.mp member with ⟨script, isUsed, rfl⟩
  rcases returned script isUsed with ⟨template, isTemplate, returns⟩
  rcases returns_iff.mp returns with ⟨name, function⟩
  refine ⟨template, isTemplate, ?_⟩
  rw [name, function]
  rfl

namespace ScriptsWritten

variable {scope : Scope} {written : List (String × String)}

/-- Only functions of the templates were written. -/
theorem entry (history : ScriptsWritten templates scope written)
    {entry : String × String} (member : entry ∈ written) :
    ∃ template ∈ templates, entry = scriptEntry template := by
  induction history with
  | none empty => cases member
  | call before returned ok inductionHypothesis =>
      rcases List.mem_append.mp member with earlier | now
      · exact inductionHypothesis earlier
      · exact entry_of_returned returned (mem_of_mem_firstOccurrences now)
  | other before same inductionHypothesis => exact inductionHypothesis member

/-- What is registered was written. -/
theorem written_of_registered (history : ScriptsWritten templates scope written)
    {name : String} (registered : name ∈ scope.writtenScripts) :
    ∃ function, (name, function) ∈ written := by
  induction history with
  | none empty =>
      rw [Registry.mem_iff, empty] at registered
      cases registered
  | call before returned ok inductionHypothesis =>
      rw [(Rendering.renderScripts_ok ok).1, Scope.writtenScripts,
        Option.getD_some, Registry.mem_insertAll] at registered
      rcases registered with earlier | now
      · rcases inductionHypothesis earlier with ⟨function, isWritten⟩
        exact ⟨function, List.mem_append_left _ isWritten⟩
      · rcases List.mem_map.mp now with ⟨entry, isUsed, rfl⟩
        rcases known_or_kept _ isUsed with earlier | ⟨function, kept⟩
        · rcases inductionHypothesis earlier with ⟨function, isWritten⟩
          exact ⟨function, List.mem_append_left _ isWritten⟩
        · exact ⟨function, List.mem_append_right _ kept⟩
  | other before same inductionHypothesis =>
      apply inductionHypothesis
      rw [Scope.writtenScripts, same] at registered
      exact registered

end ScriptsWritten

/-- Templates with one name field have one list of parameter names. -/
def AgreeOnParameters (templates : List ScriptTemplate) : Prop :=
  ∀ first ∈ templates, ∀ second ∈ templates,
    scriptField? "name" first = scriptField? "name" second →
      parameterText first = parameterText second

theorem scriptEntry_eq (distinguished : Distinguished templates)
    (agree : AgreeOnParameters templates) {first second : ScriptTemplate}
    (isFirst : first ∈ templates) (isSecond : second ∈ templates)
    (same : first.functionName = second.functionName) :
    scriptEntry first = scriptEntry second := by
  have sameField : scriptField? "name" first = scriptField? "name" second := by
    rw [scriptField?_name, scriptField?_name, same]
  have sameBody :=
    (scriptField?_inj distinguished isFirst isSecond sameField).2.1
  have sameParameters := agree first isFirst second isSecond sameField
  rw [scriptEntry, scriptEntry, same,
    (functionSource_inj same sameBody).mpr sameParameters]

/-- Among templates whose bodies have different digests, the name of a script
determines its function up to the names of the parameters.  If those are the
same for the same name, every script that is used has its own function on the
page: from this call or from an earlier one. -/
theorem name_determines_function (distinguished : Distinguished templates) :
    (∀ first ∈ templates, ∀ second ∈ templates,
      scriptField? "name" first = scriptField? "name" second →
        first.name.value = second.name.value ∧ first.body = second.body ∧
          (scriptField? "function" first = scriptField? "function" second ↔
            parameterText first = parameterText second)) ∧
    (AgreeOnParameters templates →
      ∀ {depth : Nat} {stage after : Stage depth} {used : List Script}
        {written : List (String × String)},
        ScriptsWritten templates stage.scope written →
        (∀ script ∈ used, ∃ template ∈ templates, Returns template script) →
        renderScripts used stage = .ok () after →
        ∃ block,
          after.channel.content = stage.channel.content ++
            blockBytes "<script type=\"text/javascript\">" "</script>" block ∧
          ScriptsWritten templates after.scope (written ++ block) ∧
          ∀ script ∈ used,
            (script.name, script.function) ∈ written ++ block) := by
  refine ⟨?_, ?_⟩
  · intro first isFirst second isSecond same
    exact scriptField?_inj distinguished isFirst isSecond same
  intro agree depth stage after used written history returned ok
  have later := history.call returned ok
  refine ⟨_, (Rendering.renderScripts_ok ok).2, later, ?_⟩
  intro script isUsed
  have member : (script.name, script.function) ∈ namedScripts used :=
    List.mem_map_of_mem isUsed
  have registered : script.name ∈ after.scope.writtenScripts := by
    rw [(Rendering.renderScripts_ok ok).1, Scope.writtenScripts,
      Option.getD_some, Registry.mem_insertAll]
    exact .inr (List.mem_map_of_mem member)
  rcases later.written_of_registered registered with ⟨function, isWritten⟩
  rcases entry_of_returned returned member with ⟨own, isOwn, same⟩
  rcases later.entry isWritten with ⟨other, isOther, sameOther⟩
  have sameName : own.functionName = other.functionName :=
    (congrArg Prod.fst same).symm.trans (congrArg Prod.fst sameOther)
  have equal := scriptEntry_eq distinguished agree isOwn isOther sameName
  rw [same, equal, ← sameOther]
  exact isWritten

/-- A script template with these parameters and this body. -/
def greetTemplate (parameters body : String) : ScriptTemplate :=
  ⟨⟨"greet", default⟩, ⟨parameters, default⟩, body⟩

/-- The value that the function of a template returns without arguments. -/
def returned (template : ScriptTemplate) : Script :=
  ⟨template.functionName, template.functionSource,
    callText template.functionName []⟩

theorem returns_returned (template : ScriptTemplate) :
    Returns template (returned template) :=
  returns_iff.mpr ⟨rfl, rfl⟩

/-- Two templates that bind the same name to different types, and one with
another body. -/
def greetTemplates : List ScriptTemplate :=
  [greetTemplate "name: &str" "alert(name)",
    greetTemplate "mut name: String" "alert(name)",
    greetTemplate "name: &str" "log(name)"]

theorem distinguished_greetTemplates : Distinguished greetTemplates := by
  have differ : Digest.hexPrefix "alert(name)" Digest.keptDigits ≠
      Digest.hexPrefix "log(name)" Digest.keptDigits := by decide +kernel
  have bodies : ∀ template ∈ greetTemplates,
      template.body = "alert(name)" ∨ template.body = "log(name)" := by decide
  intro first isFirst second isSecond same
  rcases bodies first isFirst with isAlert | isLog <;>
    rcases bodies second isSecond with alsoAlert | alsoLog
  · exact isAlert.trans alsoAlert.symm
  · rw [isAlert, alsoLog] at same
    exact absurd same differ
  · rw [isLog, alsoAlert] at same
    exact absurd same.symm differ
  · exact isLog.trans alsoLog.symm

theorem agree_greetTemplates : AgreeOnParameters greetTemplates := by
  have parameters : ∀ template ∈ greetTemplates,
      parameterText template = "name" := by decide
  intro first isFirst second isSecond _
  rw [parameters first isFirst, parameters second isSecond]

/-- Each of the three scripts finds its function on a page that uses all of
them. -/
theorem greet_name_determines_function :
    Distinguished greetTemplates ∧ AgreeOnParameters greetTemplates ∧
      ∃ after : Stage 0,
        renderScripts (greetTemplates.map returned)
            (⟨.empty, (Channel.sink .unlimited).onTop⟩ : Stage 0) =
          .ok () after ∧
        ∃ block, after.channel.content =
            blockBytes "<script type=\"text/javascript\">" "</script>" block ∧
          ∀ template ∈ greetTemplates, scriptEntry template ∈ block := by
  refine ⟨distinguished_greetTemplates, agree_greetTemplates, ?_⟩
  let start : Stage 0 := ⟨.empty, (Channel.sink .unlimited).onTop⟩
  have succeeds :
      (EStateM.run' (renderScripts (greetTemplates.map returned))
        start).isSome = true := by decide +kernel
  rcases rendered : renderScripts (greetTemplates.map returned) start with
    ⟨_, after⟩ | ⟨cause, after⟩
  · have fromTemplates : ∀ script ∈ greetTemplates.map returned,
        ∃ template ∈ greetTemplates, Returns template script := by
      intro script member
      rcases List.mem_map.mp member with ⟨template, isTemplate, rfl⟩
      exact ⟨template, isTemplate, returns_returned template⟩
    rcases (name_determines_function distinguished_greetTemplates).2
        agree_greetTemplates (.none rfl) fromTemplates rendered with
      ⟨block, content, _, supplied⟩
    refine ⟨after, rfl, block, content, ?_⟩
    intro template isTemplate
    exact supplied (returned template) (List.mem_map_of_mem isTemplate)
  · delta EStateM.run' EStateM.run at succeeds
    rw [rendered] at succeeds
    cases succeeds

/-- Templates with the same body that bind different names have the same name
field, and a page with both has the function of the first one only. -/
theorem greet_function_left_out :
    let first := greetTemplate "a: i32" "go()"
    let second := greetTemplate "b: i32" "go()"
    Distinguished [first, second] ∧
      scriptField? "name" first = scriptField? "name" second ∧
      scriptField? "function" first ≠ scriptField? "function" second ∧
      firstOccurrences [] (namedScripts [returned first, returned second]) =
        [scriptEntry first] := by
  intro first second
  have sameName : first.functionName = second.functionName := rfl
  refine ⟨?_, ?_, ?_, ?_⟩
  · intro one isOne other isOther digits
    simp only [List.mem_cons, List.not_mem_nil, or_false] at isOne isOther
    rcases isOne with rfl | rfl <;> rcases isOther with rfl | rfl <;> rfl
  · rw [scriptField?_name, scriptField?_name, sameName]
  · rw [scriptField?_function, scriptField?_function, ne_eq,
      Option.some.injEq]
    intro same
    have sameParameters := (functionSource_inj sameName rfl).mp
      (literal_injective same)
    revert sameParameters
    decide
  · show firstOccurrences [] [scriptEntry first, scriptEntry second] = _
    rw [scriptEntry, firstOccurrences_fresh List.not_mem_nil, scriptEntry,
      ← sameName, firstOccurrences_known List.mem_cons_self,
      firstOccurrences_nil]

end Templating.Code

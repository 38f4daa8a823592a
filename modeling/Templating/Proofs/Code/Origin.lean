import Templating.Proofs.Code.Brackets
import Templating.Proofs.Code.Separation

/-!
# Where the texts in generated code come from

What the generator does not word itself is a literal, a copy of an expression,
or a text from somewhere else.  There are only two other places: the settings,
and the parameter lists of script templates.  Bodies of components have no such
text at all.
-/

namespace Templating

/-- The texts of the settings that generated code shows. -/
def Settings.texts (settings : Settings) : List String :=
  [settings.bannerVersion, settings.runtimePath]

/-- The names that the parameters of a script template bind. -/
def Declaration.bindings : Declaration → List String
  | .script template => template.arguments
  | _ => []

end Templating

namespace Templating.Code

/-- The texts among fragments that are neither worded nor literals nor
copies. -/
def verbatims (fragments : List Fragment) : List String :=
  fragments.filterMap fun
    | .verbatim text => some text
    | _ => none

@[simp]
theorem verbatims_append (first second : List Fragment) :
    verbatims (first ++ second) = verbatims first ++ verbatims second :=
  List.filterMap_append

/-- Where a text in the code may come from: it is a literal, the copy of one of
some expressions, or one of some other texts. -/
inductive IsGiven (expressions : List Expression) (others : List String) :
    String → Prop where
  | literal (text : String) : IsGiven expressions others (literal text)
  | copy {expression : Expression} (member : expression ∈ expressions) :
      IsGiven expressions others expression.value
  | other {text : String} (member : text ∈ others) :
      IsGiven expressions others text

theorem IsGiven.mono {expressions moreExpressions : List Expression}
    {others moreOthers : List String} {text : String}
    (isGiven : IsGiven expressions others text)
    (copied : ∀ expression ∈ expressions, expression ∈ moreExpressions)
    (taken : ∀ other ∈ others, other ∈ moreOthers) :
    IsGiven moreExpressions moreOthers text := by
  cases isGiven with
  | literal text => exact .literal text
  | copy member => exact .copy (copied _ member)
  | other member => exact .other (taken _ member)

theorem isGiven_of_taken {fragments : List Fragment} {text : String}
    (member : .taken text ∈ symbols fragments) :
    IsGiven (copies fragments) (verbatims fragments) text := by
  rcases List.mem_flatMap.mp member with ⟨fragment, isFragment, inFragment⟩
  cases fragment with
  | words words =>
      rcases List.mem_map.mp inFragment with ⟨character, _, same⟩
      cases same
  | quoted quoted =>
      cases List.mem_singleton.mp inFragment
      exact .literal quoted
  | copied expression =>
      cases List.mem_singleton.mp inFragment
      exact .copy (List.mem_filterMap.mpr ⟨_, isFragment, rfl⟩)
  | verbatim text =>
      cases List.mem_singleton.mp inFragment
      exact .other (List.mem_filterMap.mpr ⟨_, isFragment, rfl⟩)

/-! ## Lines -/

def Entry.verbatims (entry : Entry) : List String :=
  Code.verbatims entry.content

theorem verbatims_flatMap_content (entries : List Entry) :
    verbatims (entries.flatMap Entry.content) =
      entries.flatMap Entry.verbatims := by
  induction entries with
  | nil => rfl
  | cons entry rest inductionHypothesis =>
      rw [List.flatMap_cons, verbatims_append, inductionHypothesis]
      rfl

@[simp]
theorem Entry.verbatims_of (depth : Nat) (fragments : List Fragment) :
    (Entry.of depth fragments).verbatims = Code.verbatims fragments := by
  have indentation :
      Code.verbatims (List.replicate depth (.words indentUnit)) = [] := by
    induction depth with
    | zero => rfl
    | succ depth inductionHypothesis =>
        rw [List.replicate_succ]
        exact inductionHypothesis
  show Code.verbatims (List.replicate depth (.words indentUnit) ++ fragments ++
    [.words "\n"]) = _
  rw [verbatims_append, verbatims_append, indentation]
  exact List.append_nil _

@[simp]
theorem Entry.verbatims_plain (depth : Nat) (text : String) :
    (Entry.plain depth text).verbatims = [] :=
  verbatims_of depth [.words text]

@[simp]
theorem Entry.verbatims_blank : (Entry.line .blank).verbatims = [] := rfl

/-! ## Statements -/

mutual

theorem verbatims_layoutStatement (depth : Nat) (statement : Statement) :
    (layoutStatement depth statement).flatMap Entry.verbatims = [] := by
  match statement with
  | .loop header body =>
      simp [layoutStatement, verbatims, verbatims_layoutBlock (depth + 1) body]
  | .conditional condition thenBlock elseBlock =>
      simp [layoutStatement, verbatims,
        verbatims_layoutBlock (depth + 1) thenBlock,
        verbatims_layoutElse depth elseBlock]
  | .choice subject arms fallback =>
      simp [layoutStatement, verbatims, verbatims_layoutArms (depth + 1) arms,
        verbatims_layoutFallback (depth + 1) fallback]
  | .bindText target text
  | .bindClasses target value
  | .bindScript target value
  | .bindUrl target value
  | .writeText text
  | .writeEscaped value
  | .renderComponent component =>
      simp [layoutStatement, verbatims]
  | .writeTemporary source
  | .writeEscapedTemporary source
  | .writeCall source
  | .renderStyles source
  | .renderScripts sources =>
      simp [layoutStatement]
  | .rejected tag => rfl

theorem verbatims_layoutBlock (depth : Nat) (block : List Statement) :
    (layoutBlock depth block).flatMap Entry.verbatims = [] := by
  match block with
  | [] => rfl
  | statement :: rest =>
      rw [layoutBlock, List.flatMap_append,
        verbatims_layoutStatement depth statement,
        verbatims_layoutBlock depth rest]
      rfl

theorem verbatims_layoutElse (depth : Nat) (block : Option (List Statement)) :
    (layoutElse depth block).flatMap Entry.verbatims = [] := by
  match block with
  | none => rfl
  | some block =>
      simp [layoutElse, verbatims_layoutBlock (depth + 1) block]

theorem verbatims_layoutArms (depth : Nat)
    (arms : List (Expression × List Statement)) :
    (layoutArms depth arms).flatMap Entry.verbatims = [] := by
  match arms with
  | [] => rfl
  | (pattern, block) :: rest =>
      simp [layoutArms, verbatims, verbatims_layoutBlock (depth + 1) block,
        verbatims_layoutArms depth rest]

theorem verbatims_layoutFallback (depth : Nat)
    (block : Option (List Statement)) :
    (layoutFallback depth block).flatMap Entry.verbatims = [] := by
  match block with
  | none => simp [layoutFallback]
  | some block =>
      simp [layoutFallback, verbatims_layoutBlock (depth + 1) block]

end

/-! ## Modules -/

theorem mem_texts_of_mem_layoutHeader {file : TemplateFile}
    {settings : Settings} {text : String}
    (member : text ∈ (layoutHeader file settings).flatMap Entry.verbatims) :
    text ∈ settings.texts := by
  have imports : (file.imports.map fun path =>
      Entry.of 1 [.words "use ", .copied path, .words ";"]).flatMap
        Entry.verbatims = [] := by
    induction file.imports with
    | nil => rfl
    | cons path rest inductionHypothesis =>
        rw [List.map_cons, List.flatMap_cons, inductionHypothesis,
          Entry.verbatims_of]
        rfl
  simp only [layoutHeader, layoutBanner, layoutImports, List.flatMap_append,
    imports] at member
  cases html : file.hasHtml <;> cases style : file.hasStyle <;>
    simpa [html, style, runtimeImport, verbatims, Settings.texts] using member

theorem verbatims_layoutSignature (name parameters : Expression)
    (result : String) :
    (layoutSignature name parameters result).verbatims = [] := by
  simp [layoutSignature, verbatims]

theorem verbatims_layoutArguments (arguments : List String) :
    verbatims (layoutArguments arguments) = arguments := by
  fun_induction layoutArguments arguments with
  | case1 => rfl
  | case2 argument => rfl
  | case3 argument rest notLast inductionHypothesis =>
      exact congrArg (argument :: ·) inductionHypothesis

theorem verbatims_layoutBuilder (template : StyleTemplate) :
    (layoutBuilder template).flatMap Entry.verbatims = [] := by
  have properties : ((template.properties.map lowerProperty).map
      (layoutStyleStatement 2)).flatMap Entry.verbatims = [] := by
    induction template.properties with
    | nil => rfl
    | cons property rest inductionHypothesis =>
        rw [List.map_cons, List.map_cons, List.flatMap_cons,
          inductionHypothesis]
        cases property <;>
          simp [lowerProperty, layoutStyleStatement, verbatims]
  simp only [layoutBuilder, List.cons_append, List.flatMap_cons,
    List.flatMap_append, properties, Entry.verbatims_plain, List.nil_append]
  simp [verbatims]

theorem verbatims_layoutRecord (template : ScriptTemplate) :
    (layoutRecord template).flatMap Entry.verbatims = template.arguments := by
  simp only [layoutRecord, List.flatMap_cons, Entry.verbatims_of,
    verbatims_append, verbatims_layoutArguments]
  simp [verbatims]

theorem verbatims_layoutFunction (function : Declaration × List Statement) :
    (layoutFunction function).flatMap Entry.verbatims =
      function.1.bindings := by
  rcases function with ⟨template | template | template, body⟩
  · simp [layoutFunction, layoutHtml, verbatims_layoutSignature,
      verbatims_layoutBlock, Declaration.bindings]
  · simp only [layoutFunction, layoutStyle, styleSignature, functionEnd,
      List.flatMap_cons, List.flatMap_append, List.flatMap_nil,
      Entry.verbatims_blank, Entry.verbatims_plain, verbatims_layoutSignature,
      verbatims_layoutBuilder]
    rfl
  · simp only [layoutFunction, layoutScript, scriptSignature, recordOpening,
      recordEnd, functionEnd, List.flatMap_cons, List.flatMap_append,
      List.flatMap_nil, Entry.verbatims_blank, Entry.verbatims_plain,
      verbatims_layoutSignature, verbatims_layoutRecord]
    simp [Declaration.bindings]

theorem mem_verbatims_layoutModule {file : TemplateFile} {settings : Settings}
    {text : String}
    (member : text ∈
      verbatims ((layoutModule file settings).flatMap Entry.content)) :
    text ∈ settings.texts ++ file.declarations.flatMap Declaration.bindings := by
  have functions : ((moduleBodies file).flatMap layoutFunction).flatMap
      Entry.verbatims = file.declarations.flatMap Declaration.bindings := by
    rw [List.flatMap_assoc, ← map_fst_lowerDeclarations file.declarations 0,
      List.flatMap_map]
    congr 1
    funext function
    exact verbatims_layoutFunction function
  rw [verbatims_flatMap_content, layoutModule_eq, List.flatMap_append,
    List.flatMap_append, functions, List.flatMap_cons, Entry.verbatims_plain,
    List.flatMap_nil, List.append_nil, List.append_nil, List.mem_append] at member
  rw [List.mem_append]
  exact member.imp_left mem_texts_of_mem_layoutHeader

end Templating.Code

import Templating.Proofs.Code.Scripts
import Templating.Proofs.Script.Scanner

/-!
# Closing braces of generated functions

The function of a script template is the trimmed body between braces.  Trimming
takes the end of the last line away, so where the body ends in a line comment
the closing brace is a part of the comment, and with it everything that follows
up to the next end of a line.  Every other complete body leaves its brace to be
closed by the one behind it, and functions of such bodies can follow one another
in a block.
-/

namespace Templating.JavaScript

/-! ## Braces around a text -/

/-- The brace in front of the text is open all along the text, and it is closed
by the brace behind the text, which is in code. -/
structure ClosesBrace (outer : List Bracket) (text : List Char) : Prop where
  stays : ∀ part, part <+: text → ∃ mode inner,
    scan ⟨.code, outer⟩ ('\x7b' :: part) = some ⟨mode, inner ++ .curly :: outer⟩
  inCode : ∃ mode ∈ [Mode.code, .slash],
    scan ⟨.code, outer⟩ ('\x7b' :: text) = some ⟨mode, .curly :: outer⟩
  closes : scan ⟨.code, outer⟩ ('\x7b' :: (text ++ ['\x7d'])) =
    some ⟨.code, outer⟩

/-- The brace in front of the text is open to the end of the line: the brace
behind the text, and whatever follows it on its line, is in a comment. -/
def LeavesOpen (outer : List Bracket) (text : List Char) : Prop :=
  ∀ rest : List Char, (∀ character ∈ rest, character ∉ lineEnds) →
    scan ⟨.code, outer⟩ ('\x7b' :: (text ++ '\x7d' :: rest)) =
      some ⟨.lineComment, .curly :: outer⟩

variable {outer : List Bracket} {text : List Char}

/-- Behind a brace a text is read as it is read by itself. -/
theorem scan_brace {part : List Char} {state : State}
    (scanned : scan outside part = some state) (outer : List Bracket) :
    scan ⟨.code, outer⟩ ('\x7b' :: part) =
      some ⟨state.mode, state.brackets ++ .curly :: outer⟩ :=
  scan_within scanned

/-- A part of a text that is read to its end is read as well. -/
theorem exists_scan_of_prefix {part : List Char} {state after : State}
    (isPart : part <+: text) (scanned : scan state text = some after) :
    ∃ between, scan state part = some between := by
  rcases isPart with ⟨rest, rfl⟩
  rw [scan_append, Option.bind_eq_some_iff] at scanned
  rcases scanned with ⟨between, here, _⟩
  exact ⟨between, here⟩

theorem closesBrace_iff (complete : IsComplete text) (outer : List Bracket) :
    ClosesBrace outer text ↔ ¬EndsInLineComment text := by
  constructor
  · rintro closed comment
    rcases closed.inCode with ⟨mode, isCode, scanned⟩
    rw [scan_brace comment, Option.some.injEq, State.mk.injEq] at scanned
    rw [← scanned.1] at isCode
    revert isCode
    decide
  · intro noComment
    rcases complete with ⟨mode, settled, scanned⟩
    have whole := scan_brace scanned outer
    have isCode : mode ∈ [Mode.code, .slash] := by
      cases mode with
      | code | slash => decide
      | lineComment => exact absurd scanned noComment
      | _ => cases settled
    constructor
    · intro part isPart
      rcases exists_scan_of_prefix isPart scanned with ⟨between, here⟩
      exact ⟨between.mode, between.brackets, scan_brace here outer⟩
    · exact ⟨mode, isCode, whole⟩
    · rw [← List.cons_append, scan_append, whole]
      simp only [List.mem_cons, List.not_mem_nil, or_false] at isCode
      rcases isCode with rfl | rfl <;> rfl

theorem EndsInLineComment.leavesOpen (comment : EndsInLineComment text)
    (outer : List Bracket) : LeavesOpen outer text := by
  intro rest sameLine
  rw [← List.cons_append, scan_append, scan_brace comment]
  apply scan_lineComment
  intro character member
  rcases List.mem_cons.mp member with rfl | later
  · decide
  · exact sameLine character later

theorem LeavesOpen.not_closes (leavesOpen : LeavesOpen outer text) :
    scan ⟨.code, outer⟩ ('\x7b' :: (text ++ ['\x7d'])) ≠
      some ⟨.code, outer⟩ := by
  intro closes
  have opened := leavesOpen [] fun _ member => absurd member List.not_mem_nil
  rw [closes] at opened
  cases opened

theorem leavesOpen_iff (complete : IsComplete text) (outer : List Bracket) :
    LeavesOpen outer text ↔ EndsInLineComment text := by
  constructor
  · intro leavesOpen
    by_contra noComment
    exact leavesOpen.not_closes
      ((closesBrace_iff complete outer).mpr noComment).closes
  · intro comment
    exact comment.leavesOpen outer

/-! ## Texts in a row -/

/-- Each of the texts starts where nothing is open and ends there. -/
def Separate (texts : List (List Char)) : Prop :=
  ∀ first, first <+: texts → scan outside first.flatten = some outside

theorem separate_iff {texts : List (List Char)} :
    Separate texts ↔ ∀ text ∈ texts, scan outside text = some outside := by
  constructor
  · intro separate text member
    rcases List.append_of_mem member with ⟨before, behind, rfl⟩
    have upTo := separate (before ++ [text])
      ⟨behind, by rw [List.append_assoc, List.singleton_append]⟩
    rw [List.flatten_append, List.flatten_singleton, scan_append,
      separate before (List.prefix_append _ _)] at upTo
    exact upTo
  · intro alone first isFirst
    have inFirst : ∀ text ∈ first, scan outside text = some outside :=
      fun text member => alone text (isFirst.subset member)
    clear isFirst alone
    induction first with
    | nil => rfl
    | cons text rest inductionHypothesis =>
        rw [List.flatten_cons, scan_append,
          inFirst text List.mem_cons_self]
        exact inductionHypothesis fun other member =>
          inFirst other (List.mem_cons_of_mem _ member)

end Templating.JavaScript

namespace Templating.Code

open JavaScript Render

/-! ## Functions of templates -/

/-- What a function starts with, up to the brace of its body. -/
def functionHead (template : ScriptTemplate) : List Char :=
  ("function " ++ template.functionName ++ "(" ++ parameterText template ++
    ")").toList

/-- What stands between the braces of a function. -/
def functionBody (template : ScriptTemplate) : List Char :=
  Text.trim template.body.toList

theorem toList_functionSource (template : ScriptTemplate) :
    template.functionSource.toList =
      functionHead template ++ '\x7b' :: (functionBody template ++ ['\x7d']) := by
  show ("function " ++ template.functionName ++ "(" ++ parameterText template ++
    ")\x7b" ++ Text.trimmed template.body ++ "\x7d").toList = _
  have braces : ")\x7b".toList = ")".toList ++ ['\x7b'] := rfl
  have brace : "\x7d".toList = ['\x7d'] := rfl
  rw [functionHead, functionBody, Text.trimmed]
  simp only [String.toList_append, String.toList_ofList, braces, brace,
    List.append_assoc, List.cons_append, List.nil_append]

variable {template : ScriptTemplate}

/-- Names and arguments without marks make a head that leaves nothing open. -/
theorem scan_functionHead
    (plainName : ∀ character ∈ template.name.value.toList, character ∉ marks)
    (plainArguments :
      ∀ character ∈ (parameterText template).toList, character ∉ marks) :
    scan outside (functionHead template) = some outside := by
  have digits : ∀ digit ∈ "0123456789abcdef".toList, digit ∉ marks :=
    List.forall_iff_forall_mem.mp (by decide)
  have words : ∀ character ∈ "function __templ_".toList, character ∉ marks :=
    List.forall_iff_forall_mem.mp (by decide)
  have split : functionHead template =
      ("function __templ_".toList ++ template.name.value.toList ++ ['_'] ++
        (Digest.hexPrefix template.body Digest.keptDigits).toList) ++
        '(' :: ((parameterText template).toList ++ [')']) := by
    have opening : "function ".toList ++ "__templ_".toList =
        "function __templ_".toList := by decide
    rw [functionHead, ScriptTemplate.functionName, Digest.functionIdentifier,
      ← opening]
    simp only [String.toList_append, List.append_assoc]
    rfl
  rw [split, scan_append, outside, scan_plain, Option.bind_some, scan_cons]
  · show (scan ⟨.code, [.round]⟩
      ((parameterText template).toList ++ [')'])) = some ⟨.code, []⟩
    rw [scan_append, scan_plain plainArguments]
    rfl
  · intro character member
    simp only [List.mem_append, List.mem_singleton] at member
    rcases member with ((isWord | isName) | rfl) | isDigit
    · exact words character isWord
    · exact plainName character isName
    · decide
    · exact digits character (Digest.mem_digits_of_mem_hexPrefix isDigit)

/-- A function whose head leaves nothing open is closed if and only if its body
does not end in a line comment. -/
theorem scan_functionSource_iff
    (complete : IsComplete template.body.toList)
    (head : scan outside (functionHead template) = some outside) :
    scan outside template.functionSource.toList = some outside ↔
      ¬EndsInLineComment (functionBody template) := by
  rw [toList_functionSource, scan_append, head, Option.bind_some]
  constructor
  · intro closed comment
    exact (comment.leavesOpen []).not_closes closed
  · intro noComment
    exact ((closesBrace_iff complete.trim []).mpr noComment).closes

/-- For templates with complete bodies, the last brace of a function is in code
and closes the brace of the body if and only if the trimmed body does not end in
a line comment; if it does, the brace of the body stays open to the end of the
line.  A block of such functions consists of separate ones if and only if none
of them ends in a line comment. -/
theorem function_closed_iff (templates : List ScriptTemplate)
    (complete : ∀ template ∈ templates, IsComplete template.body.toList) :
    (∀ template ∈ templates,
      template.functionSource.toList = functionHead template ++
        '\x7b' :: (functionBody template ++ ['\x7d']) ∧
      ∀ outer,
        (ClosesBrace outer (functionBody template) ↔
          ¬EndsInLineComment (functionBody template)) ∧
        (LeavesOpen outer (functionBody template) ↔
          EndsInLineComment (functionBody template))) ∧
    ((∀ template ∈ templates,
        scan outside (functionHead template) = some outside) →
      ∀ {depth : Nat} {stage after : Stage depth} {used : List Script},
        (∀ script ∈ used, ∃ template ∈ templates, Returns template script) →
        renderScripts used stage = .ok () after →
        ∃ block,
          after.channel.content = stage.channel.content ++
            blockBytes "<script type=\"text/javascript\">" "</script>" block ∧
          block = firstOccurrences stage.scope.writtenScripts.names
            (namedScripts used) ∧
          (Separate (block.map (·.2.toList)) ↔
            ∀ template ∈ templates, scriptEntry template ∈ block →
              ¬EndsInLineComment (functionBody template))) := by
  refine ⟨?_, ?_⟩
  · intro template isTemplate
    have body := (complete template isTemplate).trim
    exact ⟨toList_functionSource template, fun outer =>
      ⟨closesBrace_iff body outer, leavesOpen_iff body outer⟩⟩
  · intro heads depth stage after used returned ok
    refine ⟨_, (Rendering.renderScripts_ok ok).2, rfl, ?_⟩
    have closed : ∀ template ∈ templates,
        (scan outside template.functionSource.toList = some outside ↔
          ¬EndsInLineComment (functionBody template)) :=
      fun template isTemplate => scan_functionSource_iff
        (complete template isTemplate) (heads template isTemplate)
    rw [separate_iff]
    constructor
    · intro separate template isTemplate inBlock
      apply (closed template isTemplate).mp
      exact separate _ (List.mem_map.mpr ⟨scriptEntry template, inBlock, rfl⟩)
    · intro noComment text member
      rcases List.mem_map.mp member with ⟨entry, inBlock, rfl⟩
      rcases entry_of_returned returned (mem_of_mem_firstOccurrences inBlock)
        with ⟨template, isTemplate, rfl⟩
      exact (closed template isTemplate).mpr
        (noComment template isTemplate inBlock)

/-- A body with a remark on its last line, and one without. -/
def remarkedTemplates : List ScriptTemplate :=
  [greetTemplate "name: &str" "go(name) // done\n",
    greetTemplate "name: &str" "go(name)"]

theorem complete_remarkedTemplates :
    ∀ template ∈ remarkedTemplates, IsComplete template.body.toList := by
  have closed : ∀ template ∈ remarkedTemplates,
      scan outside template.body.toList = some outside := by decide
  intro template isTemplate
  exact ⟨.code, rfl, closed template isTemplate⟩

/-- On a page with both functions the first one is not closed: the second one is
a part of the remark. -/
theorem remarked_function_closed_iff :
    (∀ template ∈ remarkedTemplates, IsComplete template.body.toList) ∧
      (∀ template ∈ remarkedTemplates,
        scan outside (functionHead template) = some outside) ∧
      LeavesOpen [] "go(name) // done".toList ∧
      ¬ClosesBrace [] "go(name) // done".toList ∧
      ClosesBrace [] "go(name)".toList ∧
      ∃ after : Stage 0,
        renderScripts (remarkedTemplates.map returned)
            (⟨.empty, (Channel.sink .unlimited).onTop⟩ : Stage 0) =
          .ok () after ∧
        ∃ block, after.channel.content =
            blockBytes "<script type=\"text/javascript\">" "</script>" block ∧
          remarkedTemplates.map scriptEntry = block ∧
          ¬Separate (block.map (·.2.toList)) := by
  have heads : ∀ template ∈ remarkedTemplates,
      scan outside (functionHead template) = some outside := by
    have words : ∀ template ∈ remarkedTemplates,
        template.name.value = "greet" ∧ parameterText template = "name" := by
      decide
    intro template isTemplate
    rcases words template isTemplate with ⟨name, arguments⟩
    apply scan_functionHead
    · rw [name]
      exact List.forall_iff_forall_mem.mp (by decide)
    · rw [arguments]
      exact List.forall_iff_forall_mem.mp (by decide)
  rcases function_closed_iff remarkedTemplates complete_remarkedTemplates with
    ⟨functions, blocks⟩
  have comment : EndsInLineComment "go(name) // done".toList := by
    unfold EndsInLineComment
    decide
  have noComment : ¬EndsInLineComment "go(name)".toList := by
    unfold EndsInLineComment
    decide
  refine ⟨complete_remarkedTemplates, heads, ?_, ?_, ?_, ?_⟩
  · exact ((functions _ List.mem_cons_self).2 []).2.mpr comment
  · intro closed
    exact ((functions _ List.mem_cons_self).2 []).1.mp closed comment
  · exact ((functions _ (List.mem_cons_of_mem _ List.mem_cons_self)).2 []).1.mpr
      noComment
  have fromTemplates : ∀ script ∈ remarkedTemplates.map returned,
      ∃ template ∈ remarkedTemplates, Returns template script := by
    intro script member
    rcases List.mem_map.mp member with ⟨template, isTemplate, rfl⟩
    exact ⟨template, isTemplate, returns_returned template⟩
  let start : Stage 0 := ⟨.empty, (Channel.sink .unlimited).onTop⟩
  have unlimited : start.channel.bottom.room = none := rfl
  rcases Rendering.renderScripts_of_unlimited unlimited
    (remarkedTemplates.map returned) with ⟨after, rendered⟩
  rcases blocks heads fromTemplates rendered with
    ⟨block, content, same, separate⟩
  have whole : remarkedTemplates.map scriptEntry = block := by
    rw [same]
    decide +kernel
  refine ⟨after, rendered, block, content, whole, ?_⟩
  rw [separate]
  intro noComments
  apply noComments _ List.mem_cons_self
  · rw [← whole]
    exact List.mem_cons_self
  · exact comment

end Templating.Code

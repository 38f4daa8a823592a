import Templating.Proofs.Code.Printing
import Templating.Proofs.Execution.Preservation
import Templating.Proofs.Output.Content
import Templating.Proofs.SourceMap.Completeness

/-!
# Generated components

The function that a file gives for an HTML template frames the printed
statements of its body.  These statements are closed, and running them renders
the template.
-/

namespace Templating

open Code Execution

/-- The body of an HTML template is lowered from its children, and none of them
is rejected in an accepted file. -/
theorem mem_lowerDeclarations {declarations : List Declaration} {last : Nat}
    {template : HtmlTemplate} {body : List Statement}
    (accepted : rejectedInDeclarations? declarations = none)
    (member : (Declaration.html template, body) ∈
      (lowerDeclarations declarations last).1) :
    rejectedIn? template.children = none ∧
      ∃ number, body = (lowerNodes template.children number).1 := by
  induction declarations generalizing last with
  | nil => cases member
  | cons declaration rest inductionHypothesis =>
      simp only [rejectedInDeclarations?, Option.or_eq_none_iff] at accepted
      rw [lowerDeclarations_cons] at member
      rcases List.mem_cons.mp member with same | later
      · rw [Prod.mk.injEq] at same
        rcases same with ⟨rfl, rfl⟩
        exact ⟨accepted.1, last, rfl⟩
      · exact inductionHypothesis accepted.2 later

/-- A generated file consists of its header and one function for each
declaration.  The function of an HTML template holds the printed statements of
a closed block, no name is bound twice in the whole file, and for every meaning
of the expressions the block is the same computation as the template: on every
stage it writes the same bytes, leaves the same registries and ends with the
same result. -/
theorem generate_preserves_meaning {file : TemplateFile} {settings : Settings}
    {generated : Generated} (ok : generate file settings = .ok generated) :
    ∃ functions : List (Declaration × List Statement),
      functions.map Prod.fst = file.declarations ∧
      generated.code = entriesText (layoutHeader file settings) ++
        String.join (functions.map printedFunction) ++ printedLine 0 "\x7d" ∧
      ((functions.flatMap fun function =>
        blockTargets function.2).map Temporary.name).Nodup ∧
      ∀ template body, (Declaration.html template, body) ∈ functions →
        BlockClosed [] body ∧
        ∀ (ω ε ν : Type) (depth : Nat) (meaning : Meaning ω ε ν depth)
          (environment : ε) (store : Store),
          execBlock meaning body environment store =
            renderNodes meaning template.children environment := by
  rcases generate_eq_ok ok with ⟨accepted, code, _⟩
  refine ⟨moduleBodies file, map_fst_lowerDeclarations file.declarations 0,
    ?_, nodup_moduleBodies file, ?_⟩
  · rw [code, ← entriesText_layoutModule]
    rfl
  · intro template body member
    rcases mem_lowerDeclarations accepted member with ⟨below, number, rfl⟩
    refine ⟨closed_lowerNodes template.children number below, ?_⟩
    intro ω ε ν depth meaning environment store
    exact execBlock_lowerNodes meaning template.children number below
      environment store

/-- Gives a value and records the expression that was used for it. -/
def recorded {α : Type} (expression : Expression) (value : α) :
    Run (List String) 0 α := do
  modify fun used => used ++ [expression.value]
  return value

/-- A meaning for the greeting: its one parameter is the environment, one of
its classes comes with a rule, and its handler with a function. -/
def greetingMeaning : Meaning (List String) String Unit 0 where
  text expression name := recorded expression name
  classes expression _ := recorded expression
    [.styled ⟨"red-1", ".red-1\x7bcolor:red;\x7d"⟩, .constant "big"]
  script expression _ := recorded expression
    ⟨"hide", "function hide()\x7b\x7d", "hide()"⟩
  address expression name := recorded expression (.unchecked name)
  component expression _ := recorded expression ()
  iterations expression name := recorded expression [name]
  condition expression name := recorded expression (some name)
  subject expression _ := recorded expression ()
  matching expression _ name := recorded expression (some name)

/-- What a computation puts on an empty page and which expressions it uses,
unless it fails. -/
def pageOf (computation : Run (List String) 0 Unit) :
    Option (Bytes × List String) :=
  match computation [] ⟨.empty, (Channel.sink .unlimited).onTop⟩ with
  | .ok ((), used) after => some (after.channel.content, used)
  | .error _ _ => none

/-- The block of the greeting uses its class list and its handler first and
puts what they need on the page; then it writes the element, with its attributes
in their order. -/
theorem greeting_preserves_meaning :
    ∃ generated, generate greeting default = .ok generated ∧
      ∃ functions : List (Declaration × List Statement),
        functions.map Prod.fst = greeting.declarations ∧
        generated.code = entriesText (layoutHeader greeting default) ++
          String.join (functions.map printedFunction) ++
          printedLine 0 "\x7d" ∧
        ∃ template body, (Declaration.html template, body) ∈ functions ∧
          ∀ store, pageOf (execBlock greetingMeaning body "Ada <3" store) =
            some (Text.bytes
              ("<style type=\"text/css\">.red-1\x7bcolor:red;\x7d</style>" ++
                "<script type=\"text/javascript\">function hide()\x7b\x7d" ++
                "</script><p title=\"Ada &lt;3\" class=\"red-1 big\" " ++
                "onclick=\"hide()\">Ada &lt;3</p>"),
              ["(red(),\n big())", "hide()", "name", "name"]) := by
  rcases exists_generate_greeting with ⟨generated, ok, _⟩
  rcases generate_preserves_meaning ok with
    ⟨functions, declarations, code, _, runs⟩
  refine ⟨generated, ok, functions, declarations, code, ?_⟩
  rcases List.map_eq_singleton_iff.mp declarations with
    ⟨⟨_, body⟩, rfl, rfl⟩
  refine ⟨_, body, List.mem_singleton_self _, ?_⟩
  intro store
  rw [(runs _ body (List.mem_singleton_self _)).2]
  decide +kernel

end Templating

import Templating.Proofs.Code.Literals
import Templating.Proofs.Code.Printing
import Templating.Proofs.Style.Rule

/-!
# Running the code of a style template

The generated function of a style template fills a builder, statement by
statement: a constant property was made safe with the template and comes as a
literal of its whole declaration, and a computed one is made safe when its
statement runs, with its name as a literal and its value from an expression.
The function is run here from its text, literals read back and expressions taken
for what they show as.  It makes the class of the sanitized declarations in the
order of the properties, so it makes no difference which properties are constant
and which are computed.
-/

namespace Templating

namespace Code

/-! ## Calls with a literal -/

/-- A literal at the start of the code, and what follows it. -/
def literal? (code : List Char) : Option (String × List Char) :=
  (Literal.read? code).map fun reading =>
    (String.ofList reading.text, reading.rest)

/-- The literal between two pieces of code, and what follows the second. -/
def argument? (opening closing : String) (code : List Char) :
    Option (String × List Char) := do
  let inside ← code.dropPrefix? opening.toList
  let (text, behind) ← literal? inside
  let rest ← behind.dropPrefix? closing.toList
  return (text, rest)

theorem literal?_append (text : String) (rest : List Char) :
    literal? ((literal text).toList ++ rest) = some (text, rest) := by
  rcases Literal.read?_literalChars text.toList rest with ⟨kind, _, _, read⟩
  rw [literal?, literal, String.toList_ofList, read, Option.map_some,
    String.ofList_toList]

theorem argument?_append (opening closing text : String) (rest : List Char) :
    argument? opening closing
        ((opening ++ literal text ++ closing).toList ++ rest) =
      some (text, rest) := by
  have opens (code : List Char) :
      (opening.toList ++ code).dropPrefix? opening.toList = some code :=
    List.dropPrefix?_append_of_beq code (beq_self_eq_true _)
  have closes : (closing.toList ++ rest).dropPrefix? closing.toList = some rest :=
    List.dropPrefix?_append_of_beq rest (beq_self_eq_true _)
  simp only [argument?, String.toList_append, List.append_assoc, opens,
    Option.bind_eq_bind, Option.bind_some, literal?_append, closes]
  rfl

theorem length_dropPrefix? {code expected rest : List Char}
    (dropped : code.dropPrefix? expected = some rest) :
    rest.length ≤ code.length := by
  rcases List.dropPrefix?_eq_some_iff.mp dropped with ⟨_, rfl, _⟩
  rw [List.length_append]
  exact Nat.le_add_left _ _

theorem length_argument? {opening closing text : String} {code rest : List Char}
    (argument : argument? opening closing code = some (text, rest)) :
    rest.length < code.length := by
  simp only [argument?, Option.bind_eq_bind, Option.bind_eq_some_iff] at argument
  rcases argument with ⟨inside, opens, ⟨_, behind⟩, read, _, closes, same⟩
  cases same
  rcases Option.map_eq_some_iff.mp read with ⟨reading, isRead, same⟩
  cases same
  have first := length_dropPrefix? opens
  have second := Literal.length_read? isRead
  have third : rest.length ≤ reading.rest.length := length_dropPrefix? closes
  omega

/-- Code that starts in another way has no such call. -/
theorem argument?_eq_none {opening closing other : String}
    (apart : ¬opening.toList <+: other.toList ∧
      ¬other.toList <+: opening.toList) (rest : List Char) :
    argument? opening closing (other.toList ++ rest) = none := by
  have mismatch :
      (other.toList ++ rest).dropPrefix? opening.toList = none := by
    rcases dropped : (other.toList ++ rest).dropPrefix? opening.toList with
      _ | behind
    · rfl
    · rcases List.dropPrefix?_eq_some_iff.mp dropped with ⟨part, whole, same⟩
      have isOpening : opening.toList <+: other.toList ++ rest := by
        rw [whole, ← eq_of_beq same]
        exact List.prefix_append _ _
      rcases List.prefix_or_prefix_of_prefix isOpening
        (List.prefix_append other.toList rest) with early | late
      · exact absurd early apart.1
      · exact absurd late apart.2
  rw [argument?, mismatch]
  rfl

/-- A line with such a call, indented by two steps. -/
def callLine? (opening closing : String) (code : List Char) :
    Option (String × List Char) :=
  (code.dropPrefix? (indentUnit ++ indentUnit).toList).bind
    (argument? opening (closing ++ "\n"))

/-- The line with a call that has this text as its argument. -/
def callLine (opening closing text : String) : String :=
  printedLine 2 (opening ++ literal text ++ closing)

theorem toList_callLine (opening closing text : String) :
    (callLine opening closing text).toList =
      (indentUnit ++ indentUnit).toList ++
        (opening.toList ++
          ((literal text).toList ++ (closing ++ "\n").toList)) := by
  have indentation : String.join (List.replicate 2 indentUnit) =
      indentUnit ++ indentUnit := by decide
  rw [callLine, printedLine, indentation]
  simp only [String.toList_append, List.append_assoc]

theorem callLine?_append (opening closing text : String) (rest : List Char) :
    callLine? opening closing
        ((callLine opening closing text).toList ++ rest) =
      some (text, rest) := by
  have call := argument?_append opening (closing ++ "\n") text rest
  rw [String.toList_append, String.toList_append] at call
  rw [callLine?, toList_callLine, List.append_assoc,
    List.dropPrefix?_append_of_beq _ (beq_self_eq_true _), Option.bind_some]
  simpa only [List.append_assoc] using call

theorem callLine?_eq_none {opening other : String}
    (apart : ¬opening.toList <+: other.toList ∧
      ¬other.toList <+: opening.toList) (closing : String)
    (otherClosing text : String) (rest : List Char) :
    callLine? opening closing
      ((callLine other otherClosing text).toList ++ rest) = none := by
  rw [callLine?, toList_callLine, List.append_assoc,
    List.dropPrefix?_append_of_beq _ (beq_self_eq_true _), Option.bind_some,
    List.append_assoc]
  exact argument?_eq_none apart _

theorem length_callLine? {opening closing text : String}
    {code rest : List Char}
    (call : callLine? opening closing code = some (text, rest)) :
    rest.length < code.length := by
  rcases Option.bind_eq_some_iff.mp call with ⟨inside, indented, argument⟩
  have first := length_dropPrefix? indented
  have second := length_argument? argument
  omega

end Code

namespace Style

open Code

/-! ## The builder -/

/-- Runs the statements of a style function on a builder that holds some
declarations.  The expressions that are still to come are given in order, each
with the text that it shows as. -/
def runStatements (built : String) (computed : List (String × String))
    (code : List Char) : Option StyledClass :=
  match _added : callLine? "css.push_str(" ");" code with
  | some (declarations, rest) =>
      runStatements (built ++ declarations) computed rest
  | none =>
      match computed with
      | (expression, shown) :: others =>
          match callLine? "css.push_css(tempera::sanitize_css("
              (", " ++ expression ++ "));") code with
          | some (name, rest) =>
              runStatements (built ++ declaration name shown) others rest
          | none => none
      | [] =>
          match callLine? "css.finish(" ")" code with
          | some (name, rest) =>
              if rest = (printedLine 1 "\x7d").toList then
                some (.ofDeclarations name built)
              else
                none
          | none => none
termination_by (computed.length, code.length)
decreasing_by
  · exact Prod.Lex.right _ (length_callLine? _added)
  · exact Prod.Lex.left _ _ (Nat.lt_succ_self _)

section Steps

variable {built : String} {computed : List (String × String)}
  {code rest : List Char}

theorem runStatements_of_text {declarations : String}
    (added : callLine? "css.push_str(" ");" code = some (declarations, rest)) :
    runStatements built computed code =
      runStatements (built ++ declarations) computed rest := by
  rw [runStatements.eq_def]
  split
  · rename_i call
    rw [added] at call
    cases call
    rfl
  · rename_i none
    rw [added] at none
    cases none

variable (noText : callLine? "css.push_str(" ");" code = none)

include noText

theorem runStatements_of_computed {expression shown name : String}
    {others : List (String × String)}
    (call : callLine? "css.push_css(tempera::sanitize_css("
      (", " ++ expression ++ "));") code = some (name, rest)) :
    runStatements built ((expression, shown) :: others) code =
      runStatements (built ++ declaration name shown) others rest := by
  rw [runStatements.eq_def]
  split
  · rename_i some
    rw [noText] at some
    cases some
  · simp only [call]

theorem runStatements_of_finish {name : String}
    (call : callLine? "css.finish(" ")" code =
      some (name, (printedLine 1 "\x7d").toList)) :
    runStatements built [] code = some (.ofDeclarations name built) := by
  rw [runStatements.eq_def]
  split
  · rename_i some
    rw [noText] at some
    cases some
  · simp only [call, if_true]

end Steps

/-- The beginning of the function of a style template: its signature and a new
builder. -/
def styleOpening (template : StyleTemplate) : String :=
  printedLine 1 ("pub fn " ++ template.name.value ++ "(" ++
      template.parameters.value ++ ") -> tempera::ComponentCssClass \x7b") ++
    printedLine 2 "let mut css = CssBuilder::new();"

/-- The class that the function of a style template makes. -/
def runFunction (template : StyleTemplate) (computed : List (String × String))
    (code : String) : Option StyledClass :=
  (code.toList.dropPrefix? (styleOpening template).toList).bind
    (runStatements "" computed)

/-! ## Statements as they are printed -/

/-- The statement of a property. -/
def printedProperty : StyleProperty → String
  | .constant name value =>
      callLine "css.push_str(" ");" (declaration name value)
  | .computed name value =>
      callLine "css.push_css(tempera::sanitize_css("
        (", " ++ value.value ++ "));") (Text.trimmed name)

theorem entriesText_layoutStyleStatement (property : StyleProperty)
    (rest : List Entry) :
    entriesText (layoutStyleStatement 2 (lowerProperty property) :: rest) =
      printedProperty property ++ entriesText rest := by
  cases property with
  | constant name value =>
      rw [lowerProperty, layoutStyleStatement, entriesText_of, printedProperty,
        callLine]
      simp only [fragmentsText_cons, fragmentsText_nil, Fragment.text,
        String.append_empty, String.append_assoc]
  | computed name value =>
      rw [lowerProperty, layoutStyleStatement, entriesText_of, printedProperty,
        callLine]
      simp only [fragmentsText_cons, fragmentsText_nil, Fragment.text,
        String.append_empty, String.append_assoc]

theorem entriesText_statements (properties : List StyleProperty)
    (rest : List Entry) :
    entriesText ((properties.map lowerProperty).map (layoutStyleStatement 2) ++
        rest) =
      String.join (properties.map printedProperty) ++ entriesText rest := by
  induction properties with
  | nil =>
      rw [List.map_nil, List.map_nil, List.nil_append, List.map_nil,
        String.join_nil, String.empty_append]
  | cons property others inductionHypothesis =>
      rw [List.map_cons, List.map_cons, List.cons_append,
        entriesText_layoutStyleStatement, inductionHypothesis, List.map_cons,
        String.join_cons, String.append_assoc]

/-- The function of a style template from its opening to its last line. -/
theorem entriesText_layoutStyle (template : StyleTemplate) :
    entriesText (layoutStyle template) = styleOpening template ++
      (String.join (template.properties.map printedProperty) ++
        (callLine "css.finish(" ")" template.name.value ++
          printedLine 1 "\x7d")) := by
  have result : ") -> " ++ "tempera::ComponentCssClass" ++ " \x7b" =
      ") -> tempera::ComponentCssClass \x7b" := by
    decide
  rw [layoutStyle, styleSignature, layoutSignature, layoutBuilder, functionEnd,
    closingLine]
  simp only [List.cons_append, List.append_assoc, List.nil_append]
  rw [entriesText_of, entriesText_plain, entriesText_statements, entriesText_of,
    entriesText_plain, styleOpening, callLine, result]
  simp only [fragmentsText_cons, fragmentsText_nil, Fragment.text,
    entriesText_nil, String.append_empty, String.append_assoc]

/-! ## Runs -/

/-- The expressions of computed properties, each with the text it shows as. -/
def computedOf (properties : List (StyleProperty × String)) :
    List (String × String) :=
  properties.filterMap fun
    | (.constant _ _, _) => none
    | (.computed _ value, shown) => some (value.value, shown)

/-- The sanitized declaration of a property. -/
def declared : StyleProperty × String → String
  | (property, shown) =>
      let (name, value) := property.shownAs shown
      declaration name value

theorem declaration_trimmed (name value : String) :
    declaration (Text.trimmed name) value = declaration name value := by
  rw [declaration, declaration, declarationChars, declarationChars, Text.trimmed,
    String.toList_ofList, Text.trim_trim]

/-- The statement of a property adds its sanitized declaration, and it uses up
the expression of the property if there is one. -/
theorem runStatements_property (built : String)
    (property : StyleProperty × String)
    (others : List (StyleProperty × String)) (rest : List Char) :
    runStatements built (computedOf (property :: others))
        ((printedProperty property.1).toList ++ rest) =
      runStatements (built ++ declared property) (computedOf others) rest := by
  rcases property with ⟨⟨name, value⟩ | ⟨name, value⟩, shown⟩
  · exact runStatements_of_text (callLine?_append _ _ _ _)
  · have run : runStatements built ((value.value, shown) :: computedOf others)
        ((printedProperty (.computed name value)).toList ++ rest) =
          runStatements (built ++ declaration (Text.trimmed name) shown)
            (computedOf others) rest :=
      runStatements_of_computed (callLine?_eq_none (by decide) _ _ _ _)
        (callLine?_append _ _ _ _)
    rw [declaration_trimmed] at run
    exact run

/-- A run over the statements of all properties adds their declarations in
order. -/
theorem runStatements_properties (built name : String)
    (properties : List (StyleProperty × String)) :
    runStatements built (computedOf properties)
        (String.join (properties.map fun property =>
            printedProperty property.1) ++
          (callLine "css.finish(" ")" name ++ printedLine 1 "\x7d")).toList =
      some (.ofDeclarations name
        (built ++ String.join (properties.map declared))) := by
  induction properties generalizing built with
  | nil =>
      rw [List.map_nil, List.map_nil, String.join_nil, String.empty_append,
        String.append_empty, String.toList_append]
      exact runStatements_of_finish (callLine?_eq_none (by decide) _ _ _ _)
        (callLine?_append _ _ _ _)
  | cons property others inductionHypothesis =>
      rw [List.map_cons, List.map_cons, String.join_cons, String.join_cons,
        String.append_assoc, String.toList_append, runStatements_property,
        inductionHypothesis, String.append_assoc]

/-! ## Classes of generated functions -/

/-- The properties of a template, each with what its expression shows as: the
text that `shown` has at the place of the property. -/
def shownProperties (template : StyleTemplate) (shown : Nat → String) :
    List (StyleProperty × String) :=
  template.properties.zipIdx.map fun (property, place) => (property, shown place)

/-- The names and the values of the properties in order, not sanitized. -/
def givenPairs (template : StyleTemplate) (shown : Nat → String) :
    List (String × String) :=
  (shownProperties template shown).map fun (property, text) =>
    property.shownAs text

/-- The class that the generated function of a template makes. -/
def generatedClass? (template : StyleTemplate) (shown : Nat → String) :
    Option StyledClass :=
  runFunction template (computedOf (shownProperties template shown))
    (entriesText (layoutStyle template))

theorem generatedClass?_eq (template : StyleTemplate) (shown : Nat → String) :
    generatedClass? template shown =
      some (.ofDeclarations template.name.value <| String.join <|
        (givenPairs template shown).map fun (name, value) =>
          declaration name value) := by
  have properties : template.properties =
      (shownProperties template shown).map Prod.fst := by
    rw [shownProperties, List.map_map]
    exact List.zipIdx_map_fst 0 template.properties |>.symm
  have declarations : (shownProperties template shown).map declared =
      (givenPairs template shown).map fun (name, value) =>
        declaration name value := by
    rw [givenPairs, List.map_map]
    rfl
  have run := runStatements_properties "" template.name.value
    (shownProperties template shown)
  rw [String.empty_append, declarations] at run
  rw [generatedClass?, runFunction, entriesText_layoutStyle, properties,
    List.map_map, String.toList_append,
    List.dropPrefix?_append_of_beq _ (beq_self_eq_true _), Option.bind_some]
  exact run

/-- The function of a style template stands in the code of its file. -/
theorem exists_style_in_code {file : TemplateFile} {settings : Settings}
    {generated : Generated} (ok : generate file settings = .ok generated)
    {template : StyleTemplate}
    (isDeclared : .style template ∈ file.declarations) :
    ∃ before after, generated.code =
      before ++ entriesText (layoutStyle template) ++ after := by
  have code : generated.code = entriesText (layoutModule file settings) :=
    (generate_eq_ok ok).2.1
  have isLowered : .style template ∈ (moduleBodies file).map Prod.fst := by
    rw [moduleBodies, map_fst_lowerDeclarations]
    exact isDeclared
  rcases List.mem_map.mp isLowered with ⟨⟨_, body⟩, isFunction, rfl⟩
  rcases List.append_of_mem isFunction with ⟨early, late, split⟩
  refine ⟨entriesText (layoutHeader file settings) ++
      String.join (early.map printedFunction) ++ "\n",
    String.join (late.map printedFunction) ++ printedLine 0 "\x7d", ?_⟩
  rw [code, entriesText_layoutModule, split, List.map_append, List.map_cons,
    String.join_append, String.join_cons, printedFunction]
  simp only [String.append_assoc]

/-- The generated function of a style template makes the class of the sanitized
declarations, in the order of the properties and under the name of the template,
whatever the expressions show as.  So two templates with one name whose
properties have the same names and values make the same class, whichever of the
properties are constant and whichever are computed. -/
theorem generatedClass?_sanitized (template : StyleTemplate)
    (shown : Nat → String) :
    (∀ (file : TemplateFile) (settings : Settings) (generated : Generated),
      generate file settings = .ok generated →
      .style template ∈ file.declarations →
      ∃ before after, generated.code =
        before ++ entriesText (layoutStyle template) ++ after) ∧
    generatedClass? template shown =
      some (.ofDeclarations template.name.value <| String.join <|
        (givenPairs template shown).map fun (name, value) =>
          declaration name value) ∧
    ∀ (other : StyleTemplate) (otherShown : Nat → String),
      other.name.value = template.name.value →
      givenPairs other otherShown = givenPairs template shown →
      ∃ styled, generatedClass? template shown = some styled ∧
        generatedClass? other otherShown = some styled := by
  refine ⟨?_, generatedClass?_eq template shown, ?_⟩
  · intro file settings generated ok isDeclared
    exact exists_style_in_code ok isDeclared
  · intro other otherShown sameName sameGiven
    refine ⟨_, generatedClass?_eq template shown, ?_⟩
    rw [generatedClass?_eq, sameName, sameGiven]

/-- A template with a name in blanks and an unsafe name with a quote. -/
def ribbon : StyleTemplate where
  name := ⟨"ribbon", default⟩
  parameters := ⟨"width: u32", default⟩
  properties := [.constant " color " "red", .computed "a\"b" ⟨"width", default⟩,
    .computed "width" ⟨"width", default⟩]

/-- The same template with other properties computed. -/
def ribbonSwapped : StyleTemplate where
  name := ⟨"ribbon", default⟩
  parameters := ⟨"color: &str, width: u32", default⟩
  properties := [.computed " color " ⟨"color", default⟩, .constant "a\"b" "4",
    .computed "width" ⟨"format!(\"\x7b\x7dpx\", width)", default⟩]

theorem ribbon_generatedClass?_sanitized :
    let shown := fun place => if place = 1 then "4" else "4px"
    let swappedShown := fun place => if place = 0 then "red" else "4px"
    givenPairs ribbonSwapped swappedShown = givenPairs ribbon shown ∧
      generatedClass? ribbon shown = some (.ofDeclarations "ribbon"
        "color:red;zTemperaUnsafeCssPropertyName:4;width:4px;") ∧
      generatedClass? ribbonSwapped swappedShown =
        generatedClass? ribbon shown := by
  intro shown swappedShown
  have given :
      givenPairs ribbonSwapped swappedShown = givenPairs ribbon shown := by
    decide
  have declarations : String.join ((givenPairs ribbon shown).map
      fun (name, value) => declaration name value) =
        "color:red;zTemperaUnsafeCssPropertyName:4;width:4px;" := by
    decide
  rcases generatedClass?_sanitized ribbon shown with ⟨_, makes, same⟩
  rcases same ribbonSwapped swappedShown rfl given with ⟨styled, own, other⟩
  refine ⟨given, ?_, other.trans own.symm⟩
  rw [makes, declarations]
  rfl

end Style

end Templating

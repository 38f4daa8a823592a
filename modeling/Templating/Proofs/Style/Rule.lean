import Templating.Code.Lowering
import Templating.Proofs.Digest.Identifier
import Templating.Proofs.Render.Calls
import Templating.Proofs.Style.Declaration

/-!
# Rules of style templates

A style template comes down to statements that add declarations: a constant
property was sanitized with the template, a computed one is sanitized when the
statement runs.  The rule made of them is what its marks say it is, since no
mark of a rule occurs inside a name or a value, and a denied piece has nowhere
to begin in one part of the rule and end in the next.
-/

namespace Templating

namespace Style

/-! ## Names of classes -/

def isIdentifierChar (character : Char) : Bool :=
  character = '_' || character.isAlphanum

/-- A letter or an underscore, then letters, digits and underscores. -/
def isIdentifier : List Char → Bool
  | [] => false
  | first :: rest => isClassNameStart first && rest.all isIdentifierChar

theorem isIdentifierChar_of_mem {name : List Char}
    (identifier : isIdentifier name = true) {character : Char}
    (member : character ∈ name) : isIdentifierChar character = true := by
  cases name with
  | nil => cases identifier
  | cons first rest =>
      rw [isIdentifier, Bool.and_eq_true] at identifier
      rcases List.mem_cons.mp member with rfl | later
      · have start := identifier.1
        rw [isClassNameStart, Bool.or_eq_true] at start
        rw [isIdentifierChar, Char.isAlphanum, Bool.or_eq_true, Bool.or_eq_true]
        exact start.imp id .inl
      · exact List.all_eq_true.mp identifier.2 character later

theorem isIdentifierChar_of_mem_hex {state : Digest.State} {character : Char}
    (member : character ∈ state.hex) : isIdentifierChar character = true := by
  have digits : ∀ value : Fin 16,
      isIdentifierChar (Nat.digitChar value.val) = true := by decide
  rcases Digest.exists_digitChar_of_mem_hex member with ⟨value, rfl⟩
  exact digits value

theorem isIdentifierChar_of_mem_classIdentifier {name declarations : String}
    (identifier : isIdentifier name.toList = true) {character : Char}
    (member : character ∈
      (Digest.classIdentifier name declarations).toList) :
    isIdentifierChar character = true := by
  rw [Digest.classIdentifier, Digest.hexPrefix, String.toList_append,
    String.toList_append, List.append_assoc, List.mem_append, List.mem_append]
    at member
  rcases member with inName | isUnderscore | inDigest
  · exact isIdentifierChar_of_mem identifier inName
  · rw [List.mem_singleton.mp isUnderscore]
    rfl
  · rw [String.toList_ofList] at inDigest
    exact isIdentifierChar_of_mem_hex (List.mem_of_mem_take inDigest)

theorem isValueChar_of_isIdentifierChar {character : Char}
    (accepted : isIdentifierChar character = true) :
    isValueChar character = true := by
  rw [isIdentifierChar, Bool.or_eq_true, decide_eq_true_eq] at accepted
  rcases accepted with rfl | alphanum
  · decide
  · rw [isValueChar, alphanum]
    rfl

end Style

/-! ## Rules -/

/-- The name and the value of a property whose expression, if it has one, shows
as a text. -/
def StyleProperty.shownAs (shown : String) : StyleProperty → String × String
  | .constant name value => (name, value)
  | .computed name _ => (name, shown)

/-- The text that a statement adds when its expression, if it has one, shows as
a text. -/
def Code.StyleStatement.added (shown : String) : StyleStatement → String
  | .pushText declaration => declaration
  | .pushComputed name _ => Style.declaration name shown

namespace Style

/-- The class that the statements for some properties make, each property with
the text that its expression shows as. -/
def styledClass (name : String) (properties : List (StyleProperty × String)) :
    StyledClass :=
  .ofDeclarations name <| String.join <|
    properties.map fun (property, shown) =>
      (Code.lowerProperty property).added shown

/-- The name and the value of a property after sanitizing. -/
def sanitized : StyleProperty × String → List Char × List Char
  | (property, shown) =>
      let (name, value) := property.shownAs shown
      (safePropertyName (Text.trim name.toList),
        safePropertyValue (Text.trim value.toList))

/-- Sanitizing only trims what is accepted. -/
theorem sanitized_of_accepted (property : StyleProperty) (shown : String) :
    let given := property.shownAs shown
    let name := Text.trim given.1.toList
    let value := Text.trim given.2.toList
    (isPropertyName name = true → (sanitized (property, shown)).1 = name) ∧
      (isPropertyValue value = true →
        (sanitized (property, shown)).2 = value) :=
  ⟨safePropertyName_of_accepted, safePropertyValue_of_accepted⟩

/-- A declaration as it stands in a rule. -/
def declarationOf : List Char × List Char → List Char
  | (name, value) => name ++ ':' :: value ++ [';']

/-- Constant or computed, a property adds its sanitized declaration. -/
theorem added_lowerProperty (property : StyleProperty) (shown : String) :
    ((Code.lowerProperty property).added shown).toList =
      declarationOf (sanitized (property, shown)) := by
  cases property with
  | constant name value => exact String.toList_ofList
  | computed name value =>
      show (String.ofList (declarationChars (Text.trimmed name).toList
        shown.toList)).toList = _
      rw [String.toList_ofList, declarationChars, Text.trimmed,
        String.toList_ofList, Text.trim_trim]
      rfl

theorem rule_styledClass (name : String)
    (properties : List (StyleProperty × String)) :
    (styledClass name properties).rule.toList =
      ('.' :: (styledClass name properties).id.toList) ++
        '\x7b' :: ((properties.map sanitized).flatMap declarationOf ++
          '\x7d' :: []) := by
  rw [styledClass, StyledClass.ofDeclarations]
  simp only [String.toList_append, String.toList_join, List.flatMap_map,
    added_lowerProperty]
  simp

variable {pairs : List (List Char × List Char)}

/-- The pairs are names and values of accepted properties. -/
def Accepted (pairs : List (List Char × List Char)) : Prop :=
  ∀ pair ∈ pairs, isPropertyName pair.1 = true ∧ isPropertyValue pair.2 = true

theorem accepted_sanitized (properties : List (StyleProperty × String)) :
    Accepted (properties.map sanitized) := by
  intro pair member
  rcases List.mem_map.mp member with ⟨property, _, rfl⟩
  exact ⟨isPropertyName_safePropertyName _, isPropertyValue_safePropertyValue _⟩

theorem Accepted.tail {pair : List Char × List Char}
    (accepted : Accepted (pair :: pairs)) : Accepted pairs :=
  fun _ member => accepted _ (List.mem_cons_of_mem _ member)

/-- A character that no value contains occurs in no name either. -/
theorem Accepted.not_mem (accepted : Accepted pairs)
    {pair : List Char × List Char} (member : pair ∈ pairs) {mark : Char}
    (isMark : isValueChar mark = false) : mark ∉ pair.1 ∧ mark ∉ pair.2 := by
  rw [← Bool.not_eq_true] at isMark
  rcases accepted pair member with ⟨acceptedName, acceptedValue⟩
  constructor
  · intro inName
    exact isMark (isValueChar_of_isPropertyNameChar
      (isPropertyNameChar_of_mem acceptedName inName))
  · intro inValue
    exact isMark (isValueChar_of_mem acceptedValue inValue)

/-- Each declaration has one colon and one semicolon and no other mark. -/
theorem count_declarations (accepted : Accepted pairs) {mark : Char}
    (isMark : isValueChar mark = false) :
    (pairs.flatMap declarationOf).count mark =
      pairs.length * [':', ';'].count mark := by
  induction pairs with
  | nil => simp
  | cons pair rest inductionHypothesis =>
      have absent := accepted.not_mem List.mem_cons_self isMark
      have inName := List.count_eq_zero.mpr absent.1
      have inValue := List.count_eq_zero.mpr absent.2
      rw [List.flatMap_cons, List.count_append,
        inductionHypothesis accepted.tail, declarationOf]
      simp only [List.count_append, List.count_cons, List.count_nil, inName,
        inValue, List.length_cons, Nat.succ_mul]
      omega

/-- A rule has its two braces and the marks of its declarations. -/
theorem count_rule {name : String} (identifier : isIdentifier name.toList = true)
    (properties : List (StyleProperty × String)) {mark : Char}
    (isMark : isValueChar mark = false) :
    (styledClass name properties).rule.toList.count mark =
      ['\x7b', '\x7d'].count mark +
        properties.length * [':', ';'].count mark := by
  have notInName : mark ∉ '.' :: (styledClass name properties).id.toList := by
    intro member
    rw [← Bool.not_eq_true] at isMark
    rcases List.mem_cons.mp member with rfl | inIdentifier
    · exact isMark (by decide)
    · exact isMark (isValueChar_of_isIdentifierChar
        (isIdentifierChar_of_mem_classIdentifier identifier inIdentifier))
  rw [rule_styledClass, List.count_append, List.count_eq_zero.mpr notInName,
    List.count_cons, List.count_append,
    count_declarations (accepted_sanitized properties) isMark,
    List.length_map]
  simp only [List.count_cons, List.count_nil]
  omega

/-- Neither a value nor the frame of a rule has these marks. -/
theorem not_mem_rule {name : String} (identifier : isIdentifier name.toList = true)
    (properties : List (StyleProperty × String)) {mark : Char}
    (foreign : mark ∈ ['<', '>', '\x22', '\x5c', '&', '@']) :
    mark ∉ (styledClass name properties).rule.toList := by
  have absent : isValueChar mark = false ∧
      ['\x7b', '\x7d'].count mark = 0 ∧ [':', ';'].count mark = 0 := by
    simp only [List.mem_cons, List.not_mem_nil, or_false] at foreign
    rcases foreign with rfl | rfl | rfl | rfl | rfl | rfl <;> decide
  rcases absent with ⟨isMark, noBrace, noSeparator⟩
  rw [← List.count_eq_zero, count_rule identifier properties isMark, noBrace,
    noSeparator, Nat.mul_zero]

/-! ## Denied pieces -/

/-- A piece without the marks of declarations lies in a name or a value. -/
theorem infix_declarations {piece : List Char} (nonempty : piece ≠ [])
    (noColon : ':' ∉ piece) (noSemicolon : ';' ∉ piece)
    (inside : piece <:+: (pairs.flatMap declarationOf).map Char.toLower) :
    ∃ pair ∈ pairs, piece <:+: pair.1.map Char.toLower ∨
      piece <:+: pair.2.map Char.toLower := by
  induction pairs with
  | nil => exact absurd (List.infix_nil.mp inside) nonempty
  | cons pair rest inductionHypothesis =>
      have split : ((pair :: rest).flatMap declarationOf).map Char.toLower =
          pair.1.map Char.toLower ++ ':' :: (pair.2.map Char.toLower ++
            ';' :: (rest.flatMap declarationOf).map Char.toLower) := by
        simp [declarationOf]
      rw [split] at inside
      rcases Text.infix_append_cons noColon inside with inName | behind
      · exact ⟨pair, List.mem_cons_self, .inl inName⟩
      · rcases Text.infix_append_cons noSemicolon behind with inValue | later
        · exact ⟨pair, List.mem_cons_self, .inr inValue⟩
        · rcases inductionHypothesis later with ⟨other, member, found⟩
          exact ⟨other, List.mem_cons_of_mem _ member, found⟩

/-- The denied pieces that are made of more than letters and hyphens. -/
def markedPieces : List String :=
  ["/*", "*/", "url(", "expression("]

/-- The piece is denied, has no mark of a rule, and has a character that neither
class names nor property names have. -/
structure IsMarked (piece : String) : Prop where
  denied : piece ∈ deniedPieces
  nonempty : piece.toList ≠ []
  noColon : ':' ∉ piece.toList
  noSemicolon : ';' ∉ piece.toList
  noOpening : '\x7b' ∉ piece.toList
  noClosing : '\x7d' ∉ piece.toList
  marked : ∃ mark ∈ piece.toList, mark.isAlpha = false ∧ mark ≠ '.' ∧
    isIdentifierChar mark = false ∧ isPropertyNameChar mark = false

theorem isMarked_of_mem {piece : String} (isPiece : piece ∈ markedPieces) :
    IsMarked piece := by
  simp only [markedPieces, List.mem_cons, List.not_mem_nil, or_false] at isPiece
  rcases isPiece with rfl | rfl | rfl | rfl
  · exact ⟨by decide, by decide, by decide, by decide, by decide, by decide,
      '*', by decide⟩
  · exact ⟨by decide, by decide, by decide, by decide, by decide, by decide,
      '*', by decide⟩
  · exact ⟨by decide, by decide, by decide, by decide, by decide, by decide,
      '(', by decide⟩
  · exact ⟨by decide, by decide, by decide, by decide, by decide, by decide,
      '(', by decide⟩

/-- No such piece occurs anywhere in a rule, in any letter case. -/
theorem not_infix_rule {name : String}
    (identifier : isIdentifier name.toList = true)
    (properties : List (StyleProperty × String)) {piece : String}
    (isPiece : piece ∈ markedPieces) :
    ¬piece.toList <:+:
      (styledClass name properties).rule.toList.map Char.toLower := by
  have isMarked := isMarked_of_mem isPiece
  rcases isMarked.marked with
    ⟨mark, marked, noLetter, noDot, notInIdentifier, notInName⟩
  have split :
      (styledClass name properties).rule.toList.map Char.toLower =
        ('.' :: (styledClass name properties).id.toList).map Char.toLower ++
          '\x7b' :: (((properties.map sanitized).flatMap declarationOf).map
            Char.toLower ++ '\x7d' :: []) := by
    rw [rule_styledClass]
    simp only [List.map_append, List.map_cons, List.map_nil]
    rfl
  rw [split]
  intro inside
  rcases Text.infix_append_cons isMarked.noOpening inside with
    inIdentifier | inside
  · apply Text.not_infix_lower noLetter marked _ inIdentifier
    intro member
    rcases List.mem_cons.mp member with same | member
    · exact noDot same
    · exact Bool.eq_false_iff.mp notInIdentifier
        (isIdentifierChar_of_mem_classIdentifier identifier member)
  · rcases Text.infix_append_cons isMarked.noClosing inside with
      inDeclarations | inNothing
    · rcases infix_declarations isMarked.nonempty isMarked.noColon
        isMarked.noSemicolon inDeclarations with ⟨pair, member, found⟩
      rcases accepted_sanitized properties pair member with
        ⟨acceptedName, acceptedValue⟩
      rcases found with inName | inValue
      · apply Text.not_infix_lower noLetter marked _ inName
        intro member
        exact Bool.eq_false_iff.mp notInName
          (isPropertyNameChar_of_mem acceptedName member)
      · exact not_denied_of_isPropertyValue acceptedValue isMarked.denied inValue
    · exact isMarked.nonempty (List.infix_nil.mp inNothing)

/-! ## Splitting -/

theorem splitOn_semicolon (accepted : Accepted pairs) :
    (pairs.flatMap declarationOf).splitOn ';' =
      pairs.map (fun pair => pair.1 ++ ':' :: pair.2) ++ [[]] := by
  induction pairs with
  | nil => rfl
  | cons pair rest inductionHypothesis =>
      have absent : ';' ∉ pair.1 ∧ ';' ∉ pair.2 :=
        accepted.not_mem List.mem_cons_self (by decide)
      have whole : ';' ∉ pair.1 ++ ':' :: pair.2 := by
        simp [absent.1, absent.2]
      rw [List.flatMap_cons, declarationOf, List.append_assoc,
        List.singleton_append, Text.splitOn_append_cons whole,
        inductionHypothesis accepted.tail]
      rfl

theorem splitOn_colon (accepted : Accepted pairs)
    {pair : List Char × List Char} (member : pair ∈ pairs) :
    (pair.1 ++ ':' :: pair.2).splitOn ':' = [pair.1, pair.2] := by
  have absent : ':' ∉ pair.1 ∧ ':' ∉ pair.2 :=
    accepted.not_mem member (by decide)
  rw [Text.splitOn_append_cons absent.1, Text.splitOn_of_not_mem absent.2]

end Style

/-! ## Style blocks -/

namespace Render

open Rendering

/-- A style block has angle brackets in its own tags only, if the rules of its
classes have none. -/
theorem renderStyles_eq_writeBlock {depth : Nat} {classes : List Style.Class}
    (clear : ∀ styled, .styled styled ∈ classes → '<' ∉ styled.rule.toList)
    (stage : Stage depth) :
    ∃ scope text, '<' ∉ text.toList ∧
      renderStyles classes stage =
        writeBlock "<style type=\"text/css\">" text "</style>"
          ⟨scope, stage.channel⟩ := by
  let fresh := firstOccurrences stage.scope.writtenStyles.names
    (namedStyles classes)
  let registry := stage.scope.writtenStyles.insertAll
    ((namedStyles classes).map Prod.fst)
  refine ⟨{ stage.scope with styles := some registry },
    String.join (fresh.map Prod.snd), ?_, ?_⟩
  · rw [String.toList_join]
    intro member
    rcases List.mem_flatMap.mp member with ⟨rule, isRule, inRule⟩
    rcases List.mem_map.mp isRule with ⟨entry, isFresh, rfl⟩
    rcases mem_namedStyles.mp (mem_of_mem_firstOccurrences isFresh) with
      ⟨styled, isListed, rfl⟩
    exact clear styled isListed inRule
  · rw [renderStyles, scope_bind]
    simp only [collectNew_eq]
    rw [setScope_bind]
    rfl

end Render

namespace Style

/-- Whatever the properties of a style template are and show as, its rule holds
their sanitized declarations and nothing else.  All marks in it are the rule's
own, so the declarations can be read back, and no denied piece occurs in a value
or across the parts of the rule.  A style block of such rules has angle brackets
in its own tags only. -/
theorem styledClass_contained {name : String}
    (identifier : isIdentifier name.toList = true)
    (properties : List (StyleProperty × String)) :
    let styled := styledClass name properties
    let rule := styled.rule.toList
    let pairs := properties.map sanitized
    let body := pairs.flatMap declarationOf
    rule = '.' :: styled.id.toList ++ '\x7b' :: body ++ ['\x7d'] ∧
      (∀ pair ∈ pairs, isPropertyName pair.1 = true ∧
        isPropertyValue pair.2 = true ∧
        declarationChars pair.1 pair.2 = declarationOf pair) ∧
      (∀ property ∈ properties,
        let given := property.1.shownAs property.2
        let name := Text.trim given.1.toList
        let value := Text.trim given.2.toList
        (isPropertyName name = true → (sanitized property).1 = name) ∧
          (isPropertyValue value = true → (sanitized property).2 = value)) ∧
      rule.count '\x7b' = 1 ∧ rule.count '\x7d' = 1 ∧
      rule.count ':' = properties.length ∧
      rule.count ';' = properties.length ∧
      (∀ mark ∈ ['<', '>', '\x22', '\x5c', '&', '@'], mark ∉ rule) ∧
      (∀ pair ∈ pairs,
        ∀ piece ∈ ["expression(", "url(", "/*", "*/", "-moz-binding"],
          ¬piece.toList <:+: pair.2.map Char.toLower) ∧
      (∀ piece ∈ ["/*", "*/", "url(", "expression("],
        ¬piece.toList <:+: rule.map Char.toLower) ∧
      body.splitOn ';' =
        pairs.map (fun pair => pair.1 ++ ':' :: pair.2) ++ [[]] ∧
      (∀ pair ∈ pairs,
        (pair.1 ++ ':' :: pair.2).splitOn ':' = [pair.1, pair.2]) ∧
      (∀ classes : List Class,
        (∀ styled, .styled styled ∈ classes → ∃ name properties,
          isIdentifier name.toList = true ∧
            styled = styledClass name properties) →
        ∀ (depth : Nat) (stage : Render.Stage depth), ∃ scope text,
          '<' ∉ text.toList ∧
            Render.renderStyles classes stage =
              Render.writeBlock "<style type=\"text/css\">" text "</style>"
                ⟨scope, stage.channel⟩) := by
  intro styled rule pairs body
  have accepted : Accepted pairs := accepted_sanitized properties
  have count : ∀ mark, isValueChar mark = false → rule.count mark =
      ['\x7b', '\x7d'].count mark + properties.length * [':', ';'].count mark :=
    fun _ isMark => count_rule identifier properties isMark
  refine ⟨?_, ?_, fun property _ => sanitized_of_accepted property.1 property.2,
    ?_, ?_, ?_, ?_, ?_, ?_, ?_, splitOn_semicolon accepted, ?_, ?_⟩
  · rw [List.append_assoc]
    exact rule_styledClass name properties
  · intro pair member
    rcases accepted pair member with ⟨acceptedName, acceptedValue⟩
    rcases List.mem_map.mp member with ⟨property, _, rfl⟩
    exact ⟨acceptedName, acceptedValue, declarationChars_safe _ _⟩
  · rw [count _ (by decide)]
    simp
  · rw [count _ (by decide)]
    simp
  · rw [count _ (by decide)]
    simp
  · rw [count _ (by decide)]
    simp
  · intro mark foreign
    exact not_mem_rule identifier properties foreign
  · intro pair member piece denied
    exact not_denied_of_isPropertyValue (accepted pair member).2 denied
  · intro piece isPiece
    exact not_infix_rule identifier properties isPiece
  · intro pair member
    exact splitOn_colon accepted member
  · intro classes allSanitized depth stage
    apply Render.renderStyles_eq_writeBlock
    intro styled isListed
    rcases allSanitized styled isListed with ⟨other, others, isName, rfl⟩
    exact not_mem_rule isName others (by decide)

/-- A style template with a hostile value. -/
def cardProperties : List (StyleProperty × String) :=
  [(.constant " color " "red", ""),
    (.computed "width" ⟨"width", default⟩, "1px;\x7d body \x7bcolor:red")]

theorem card_contained :
    isIdentifier "card".toList = true ∧
      (styledClass "card" cardProperties).rule.toList.count '\x7d' = 1 ∧
      ("color:red;width:zTemperaUnsafeCssPropertyValue;".toList).splitOn ';' =
        ["color:red".toList, "width:zTemperaUnsafeCssPropertyValue".toList,
          []] := by
  have identifier : isIdentifier "card".toList = true := by decide
  have pairs : cardProperties.map sanitized =
      [("color".toList, "red".toList),
        ("width".toList, "zTemperaUnsafeCssPropertyValue".toList)] := by decide
  rcases styledClass_contained identifier cardProperties with
    ⟨_, _, _, _, closed, _, _, _, _, _, split, _⟩
  rw [pairs] at split
  exact ⟨identifier, closed, split⟩

end Style

end Templating

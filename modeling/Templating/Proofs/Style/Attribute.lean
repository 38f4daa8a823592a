import Templating.Proofs.Markup.Entity
import Templating.Proofs.Style.Rule

/-!
# Values of class attributes

Checked class names and the names of style classes are made of letters, digits,
hyphens and underscores.  None of these has a meaning in HTML and none is a
blank.  So escaping leaves the value of a class attribute as it is, nothing in
it ends the attribute, and the names can be read back from it.
-/

namespace Templating.Style

/-! ## The pattern of class names -/

/-- The character lies in one of the ranges, ends included. -/
def InRanges (ranges : List (Char × Char)) (character : Char) : Prop :=
  ∃ range ∈ ranges, range.1 ≤ character ∧ character ≤ range.2

/-- The ranges of `[_a-zA-Z]`. -/
def startRanges : List (Char × Char) := [('_', '_'), ('A', 'Z'), ('a', 'z')]

/-- The ranges of `[_\-a-zA-Z0-9]`. -/
def laterRanges : List (Char × Char) :=
  [('_', '_'), ('-', '-'), ('A', 'Z'), ('a', 'z'), ('0', '9')]

/-- The whole text is matched by `-?[_a-zA-Z]+[_\-a-zA-Z0-9]*`. -/
def MatchesPattern (text : List Char) : Prop :=
  ∃ hyphen start later, text = hyphen ++ start ++ later ∧
    (hyphen = [] ∨ hyphen = ['-']) ∧
    (start ≠ [] ∧ ∀ character ∈ start, InRanges startRanges character) ∧
    ∀ character ∈ later, InRanges laterRanges character

theorem eq_iff_between {character mark : Char} :
    character = mark ↔ mark ≤ character ∧ character ≤ mark :=
  ⟨fun same => same ▸ ⟨Char.le_refl _, Char.le_refl _⟩,
    fun between => Char.le_antisymm between.2 between.1⟩

theorem isAlpha_iff {character : Char} :
    character.isAlpha = true ↔
      ('A' ≤ character ∧ character ≤ 'Z') ∨
        ('a' ≤ character ∧ character ≤ 'z') := by
  show (decide ('A' ≤ character ∧ character ≤ 'Z') ||
    (decide ('a' ≤ character) && decide (character ≤ 'z'))) = true ↔ _
  simp only [Bool.or_eq_true, Bool.and_eq_true, decide_eq_true_eq]

theorem isDigit_iff {character : Char} :
    character.isDigit = true ↔ '0' ≤ character ∧ character ≤ '9' := by
  show (decide ('0' ≤ character) && decide (character ≤ '9')) = true ↔ _
  simp only [Bool.and_eq_true, decide_eq_true_eq]

theorem isClassNameStart_iff {character : Char} :
    isClassNameStart character = true ↔ InRanges startRanges character := by
  simp only [isClassNameStart, InRanges, startRanges, List.exists_mem_cons_iff,
    List.not_mem_nil, Bool.or_eq_true, decide_eq_true_eq, isAlpha_iff,
    false_and, exists_false, or_false, eq_iff_between]

theorem isClassNameChar_iff {character : Char} :
    isClassNameChar character = true ↔ InRanges laterRanges character := by
  simp only [isClassNameChar, Char.isAlphanum, InRanges, laterRanges,
    List.exists_mem_cons_iff, List.not_mem_nil, Bool.or_eq_true,
    decide_eq_true_eq, isAlpha_iff, isDigit_iff, false_and, exists_false,
    or_false, eq_iff_between, or_assoc]

theorem InRanges.mono {ranges others : List (Char × Char)}
    (subset : ranges ⊆ others) {character : Char}
    (inside : InRanges ranges character) : InRanges others character := by
  rcases inside with ⟨range, isRange, between⟩
  exact ⟨range, subset isRange, between⟩

theorem isPlainClassName_iff {text : List Char} :
    isPlainClassName text = true ↔
      ∃ start later, text = start ++ later ∧
        (start ≠ [] ∧ ∀ character ∈ start, InRanges startRanges character) ∧
        ∀ character ∈ later, InRanges laterRanges character := by
  constructor
  · intro accepted
    cases text with
    | nil => cases accepted
    | cons first rest =>
        rw [isPlainClassName, Bool.and_eq_true, List.all_eq_true] at accepted
        rcases accepted with ⟨starts, follow⟩
        refine ⟨[first], rest, rfl, ⟨List.cons_ne_nil _ _, ?_⟩, ?_⟩
        · intro character member
          rw [List.mem_singleton.mp member]
          exact isClassNameStart_iff.mp starts
        · intro character member
          exact isClassNameChar_iff.mp (follow character member)
  · rintro ⟨start, later, rfl, ⟨nonempty, starts⟩, follow⟩
    cases start with
    | nil => exact absurd rfl nonempty
    | cons first more =>
        rw [List.cons_append, isPlainClassName, Bool.and_eq_true,
          List.all_eq_true]
        refine ⟨isClassNameStart_iff.mpr (starts first List.mem_cons_self), ?_⟩
        intro character member
        rw [isClassNameChar_iff]
        rcases List.mem_append.mp member with inMore | inLater
        · have inStart := starts character (List.mem_cons_of_mem _ inMore)
          exact inStart.mono (by decide)
        · exact follow character inLater

theorem isClassName_cons {first : Char} (noHyphen : first ≠ '-')
    (rest : List Char) :
    isClassName (first :: rest) = isPlainClassName (first :: rest) := by
  rw [isClassName]
  intro _ same
  exact absurd (List.cons.inj same).1 noHyphen

/-- Class names are accepted if and only if the pattern matches them. -/
theorem isClassName_iff {text : List Char} :
    isClassName text = true ↔ MatchesPattern text := by
  constructor
  · intro accepted
    unfold isClassName at accepted
    split at accepted
    · rcases isPlainClassName_iff.mp accepted with ⟨start, later, rfl, matched⟩
      exact ⟨['-'], start, later, rfl, .inr rfl, matched⟩
    · rcases isPlainClassName_iff.mp accepted with ⟨start, later, rfl, matched⟩
      exact ⟨[], start, later, rfl, .inl rfl, matched⟩
  · rintro ⟨hyphen, start, later, rfl, isHyphen, starts, follow⟩
    have plain : isPlainClassName (start ++ later) = true :=
      isPlainClassName_iff.mpr ⟨start, later, rfl, starts, follow⟩
    rcases isHyphen with rfl | rfl
    · cases start with
      | nil => exact absurd rfl starts.1
      | cons first more =>
          have noHyphen : first ≠ '-' := by
            rintro rfl
            have inside := starts.2 _ List.mem_cons_self
            exact absurd (isClassNameStart_iff.mpr inside) (by decide)
          rw [List.nil_append, List.cons_append, isClassName_cons noHyphen]
          exact plain
    · exact plain

/-! ## Names of classes -/

theorem isClassNameChar_of_mem {name : List Char}
    (accepted : isClassName name = true) {character : Char}
    (member : character ∈ name) : isClassNameChar character = true := by
  rcases isClassName_iff.mp accepted with
    ⟨hyphen, start, later, rfl, isHyphen, starts, follow⟩
  rw [isClassNameChar_iff]
  simp only [List.mem_append] at member
  rcases member with (inHyphen | inStart) | inLater
  · rcases isHyphen with rfl | rfl
    · cases inHyphen
    · rw [List.mem_singleton.mp inHyphen]
      exact ⟨('-', '-'), by decide⟩
  · exact (starts.2 character inStart).mono (by decide)
  · exact follow character inLater

theorem isClassName_of_isIdentifier {name : List Char}
    (identifier : isIdentifier name = true) : isClassName name = true := by
  cases name with
  | nil => cases identifier
  | cons first rest =>
      rw [isIdentifier, Bool.and_eq_true] at identifier
      have noHyphen : first ≠ '-' := by
        rintro rfl
        exact absurd identifier.1 (by decide)
      rw [isClassName_cons noHyphen, isPlainClassName, identifier.1,
        Bool.true_and, List.all_eq_true]
      intro character member
      have accepted := List.all_eq_true.mp identifier.2 character member
      rw [isIdentifierChar, Bool.or_eq_true] at accepted
      rw [isClassNameChar, Bool.or_eq_true, Bool.or_eq_true]
      exact accepted.imp .inl id

/-- What a digest adds to an identifier keeps it one. -/
theorem isIdentifier_classIdentifier {name : String}
    (identifier : isIdentifier name.toList = true) (declarations : String) :
    isIdentifier (Digest.classIdentifier name declarations).toList = true := by
  have characters : ∀ character ∈
      (Digest.classIdentifier name declarations).toList,
        isIdentifierChar character = true :=
    fun _ member => isIdentifierChar_of_mem_classIdentifier identifier member
  rw [Digest.classIdentifier, String.toList_append, String.toList_append,
    List.append_assoc] at characters ⊢
  generalize name.toList = letters at identifier characters ⊢
  cases letters with
  | nil => cases identifier
  | cons first rest =>
      rw [isIdentifier, Bool.and_eq_true] at identifier
      rw [List.cons_append, isIdentifier, identifier.1, Bool.true_and,
        List.all_eq_true]
      intro character member
      exact characters character (List.mem_cons_of_mem _ member)

namespace Class

/-- A class comes from a name that is checked or from a style template whose
name is an identifier. -/
inductive IsMade : Class → Prop where
  | checked (name : String) : IsMade (.ofName name)
  | finished {name : String} (identifier : isIdentifier name.toList = true)
      (declarations : String) :
      IsMade (.styled (.ofDeclarations name declarations))

variable {item : Class}

/-- The class of a checked name is the name itself or the fallback. -/
theorem ofName_cases (name : String) :
    (MatchesPattern name.toList → ofName name = .constant name) ∧
      (¬MatchesPattern name.toList →
        ofName name = .constant fallbackClassName) := by
  rw [← isClassName_iff]
  exact ⟨fun matched => if_pos matched, fun refused => if_neg refused⟩

theorem IsMade.name_cases (made : item.IsMade) :
    MatchesPattern item.name.toList ∨ item.name = fallbackClassName := by
  cases made with
  | checked name =>
      by_cases matched : MatchesPattern name.toList
      · rw [(ofName_cases name).1 matched]
        exact .inl matched
      · rw [(ofName_cases name).2 matched]
        exact .inr rfl
  | finished identifier declarations =>
      rw [← isClassName_iff]
      exact .inl (isClassName_of_isIdentifier
        (isIdentifier_classIdentifier identifier declarations))

theorem IsMade.isClassNameChar_of_mem (made : item.IsMade) {character : Char}
    (member : character ∈ item.name.toList) :
    isClassNameChar character = true := by
  rcases made.name_cases with matched | isFallback
  · exact Style.isClassNameChar_of_mem (isClassName_iff.mpr matched) member
  · have fallback : fallbackClassName.toList.all isClassNameChar = true := by
      decide
    rw [isFallback] at member
    exact List.all_eq_true.mp fallback character member

end Class

/-! ## Attributes -/

variable {classes : List Class}

theorem toList_attributeValue (classes : List Class) :
    (attributeValue classes).toList =
      [' '].intercalate (classes.map fun item => item.name.toList) := by
  rw [attributeValue, String.toList_intercalate, List.map_map]
  rfl

theorem not_mem_attributeValue (made : ∀ item ∈ classes, item.IsMade)
    {mark : Char} (foreign : isClassNameChar mark = false) (visible : mark ≠ ' ') :
    mark ∉ (attributeValue classes).toList := by
  intro member
  rw [toList_attributeValue] at member
  rcases Text.mem_intercalate member with isBlank | ⟨name, isName, inName⟩
  · exact visible (List.mem_singleton.mp isBlank)
  · rcases List.mem_map.mp isName with ⟨item, isListed, rfl⟩
    have accepted := (made item isListed).isClassNameChar_of_mem inName
    rw [foreign] at accepted
    cases accepted

/-- The value of a `class` attribute is not changed by escaping and has no
character that could end it, and splitting it at blanks gives the names of the
classes back.  Each of them is matched by the pattern of class names or is the
fallback, which stands for exactly those names that the pattern does not
match. -/
theorem attributeValue_intact (nonempty : classes ≠ [])
    (made : ∀ item ∈ classes, item.IsMade) :
    let value := Markup.escape (attributeValue classes)
    value = " ".intercalate (classes.map Class.name) ∧
      (∀ mark ∈ ['"', '\'', '<', '>', '&'], mark ∉ value.toList) ∧
      value.toList.splitOn ' ' = classes.map (fun item => item.name.toList) ∧
      (∀ item ∈ classes, MatchesPattern item.name.toList ∨
        item.name = fallbackClassName) ∧
      ∀ name : String,
        (MatchesPattern name.toList → Class.ofName name = .constant name) ∧
          (¬MatchesPattern name.toList →
            Class.ofName name = .constant fallbackClassName) := by
  intro value
  have foreign : ∀ mark ∈ ['&', '<', '>', '"', '\''],
      isClassNameChar mark = false ∧ mark ≠ ' ' :=
    List.forall_iff_forall_mem.mp (by decide)
  have absent : ∀ mark ∈ ['&', '<', '>', '"', '\''],
      mark ∉ (attributeValue classes).toList := fun mark isMark =>
    not_mem_attributeValue made (foreign mark isMark).1
      (foreign mark isMark).2
  have same : value = attributeValue classes :=
    Markup.escape_of_plain fun character member isMark =>
      absent character isMark member
  rw [same]
  refine ⟨rfl, ?_, ?_, fun item isListed => (made item isListed).name_cases,
    Class.ofName_cases⟩
  · have listed : ∀ mark ∈ ['"', '\'', '<', '>', '&'],
        mark ∈ ['&', '<', '>', '"', '\''] :=
      List.forall_iff_forall_mem.mp (by decide)
    exact fun mark isMark => absent mark (listed mark isMark)
  · rw [toList_attributeValue]
    apply List.splitOn_intercalate
    · intro name isName inName
      rcases List.mem_map.mp isName with ⟨item, isListed, rfl⟩
      have accepted := (made item isListed).isClassNameChar_of_mem inName
      exact absurd accepted (by decide)
    · exact fun none => nonempty (List.map_eq_nil_iff.mp none)

/-- A name that is kept, one with a quote, one that ends in a line break, and a
style class whose declarations hold a tag. -/
def buttonClasses : List Class :=
  [.ofName "-btn_2", .ofName "x\" onclick=\"alert(1)", .ofName "wide\n",
    .styled (.ofDeclarations "card" "</style>")]

theorem buttonClasses_made : ∀ item ∈ buttonClasses, item.IsMade := by
  simp only [buttonClasses, List.forall_mem_cons]
  exact ⟨.checked _, .checked _, .checked _, .finished (by decide) _,
    List.forall_mem_nil _⟩

theorem buttonClasses_intact :
    buttonClasses ≠ [] ∧ (∀ item ∈ buttonClasses, item.IsMade) ∧
      Markup.escape (attributeValue buttonClasses) =
        "-btn_2 --tempera-css-class-safe-name " ++
          "--tempera-css-class-safe-name card_5e41" ∧
      (Markup.escape (attributeValue buttonClasses)).toList.splitOn ' ' =
        ["-btn_2", fallbackClassName, fallbackClassName, "card_5e41"].map
          String.toList := by
  have names : buttonClasses.map Class.name =
      ["-btn_2", fallbackClassName, fallbackClassName, "card_5e41"] := by
    decide +kernel
  rcases attributeValue_intact (by decide) buttonClasses_made with
    ⟨value, _, split, _⟩
  refine ⟨by decide, buttonClasses_made, ?_, ?_⟩
  · rw [value, names]
    decide
  · rw [split, ← names, List.map_map]
    rfl

end Templating.Style

import Templating.Proofs.Code.Copies

/-!
# Separation of copies

Whatever is laid out, every copy of an expression is followed on its line by
the generator's own words.  Together with the expressions of the bodies this
describes the copies of a whole module.
-/

namespace Templating.Code

/-- Behind every copy some of the generator's own words follow. -/
def Spaced : List Fragment → Prop
  | [] => True
  | .copied _ :: rest =>
      (∃ text more, text ≠ "" ∧ rest = .words text :: more) ∧ Spaced rest
  | .words _ :: rest => Spaced rest
  | .quoted _ :: rest => Spaced rest
  | .verbatim _ :: rest => Spaced rest

theorem Spaced.append {first second : List Fragment}
    (firstSpaced : Spaced first) (secondSpaced : Spaced second) :
    Spaced (first ++ second) := by
  induction first with
  | nil => exact secondSpaced
  | cons fragment rest inductionHypothesis =>
      cases fragment with
      | copied expression =>
          rcases firstSpaced with ⟨⟨text, more, nonempty, rfl⟩, later⟩
          exact ⟨⟨text, more ++ second, nonempty, rfl⟩,
            inductionHypothesis later⟩
      | words text => exact inductionHypothesis firstSpaced
      | quoted text => exact inductionHypothesis firstSpaced
      | verbatim text => exact inductionHypothesis firstSpaced

/-- A line is spaced if its fragments are, with the end of the line behind
them. -/
theorem spaced_of (depth : Nat) {fragments : List Fragment}
    (spaced : Spaced (fragments ++ [.words "\n"])) :
    Spaced (Entry.of depth fragments).content := by
  have indentation : Spaced (List.replicate depth (.words indentUnit)) := by
    induction depth with
    | zero => trivial
    | succ depth inductionHypothesis =>
        rw [List.replicate_succ]
        exact inductionHypothesis
  show Spaced (List.replicate depth (.words indentUnit) ++ fragments ++
    [.words "\n"])
  rw [List.append_assoc]
  exact indentation.append spaced

theorem spaced_plain (depth : Nat) (text : String) :
    Spaced (Entry.plain depth text).content := by
  have spaced : Spaced ([.words text] ++ [.words "\n"]) := trivial
  exact spaced_of depth spaced

/-- Entries are spaced if each of their lines is. -/
def SpacedEntries (entries : List Entry) : Prop :=
  ∀ entry ∈ entries, Spaced entry.content

theorem SpacedEntries.flatMap {entries : List Entry}
    (spaced : SpacedEntries entries) :
    Spaced (entries.flatMap Entry.content) := by
  induction entries with
  | nil => trivial
  | cons entry rest inductionHypothesis =>
      rw [List.flatMap_cons]
      apply Spaced.append
      · exact spaced entry List.mem_cons_self
      · apply inductionHypothesis
        intro other member
        exact spaced other (List.mem_cons_of_mem _ member)

@[simp]
theorem spacedEntries_nil : SpacedEntries [] := by
  simp [SpacedEntries]

@[simp]
theorem spacedEntries_cons (entry : Entry) (rest : List Entry) :
    SpacedEntries (entry :: rest) ↔
      Spaced entry.content ∧ SpacedEntries rest := by
  simp [SpacedEntries]

@[simp]
theorem spacedEntries_append (first second : List Entry) :
    SpacedEntries (first ++ second) ↔
      SpacedEntries first ∧ SpacedEntries second := by
  simp [SpacedEntries, or_imp, forall_and]

/-! ## Statements -/

mutual

theorem spaced_layoutStatement (depth : Nat) (statement : Statement) :
    SpacedEntries (layoutStatement depth statement) := by
  match statement with
  | .loop header body =>
      simp only [layoutStatement, List.cons_append, spacedEntries_cons,
        spacedEntries_append]
      refine ⟨spaced_of depth (by simp [Spaced]),
        spaced_layoutBlock (depth + 1) body, spaced_plain depth _, ?_⟩
      exact spacedEntries_nil
  | .conditional condition thenBlock elseBlock =>
      simp only [layoutStatement, List.cons_append, spacedEntries_cons,
        spacedEntries_append]
      refine ⟨spaced_of depth (by simp [Spaced]),
        ⟨spaced_layoutBlock (depth + 1) thenBlock,
          spaced_layoutElse depth elseBlock⟩, spaced_plain depth _, ?_⟩
      exact spacedEntries_nil
  | .choice subject arms fallback =>
      simp only [layoutStatement, List.cons_append, spacedEntries_cons,
        spacedEntries_append]
      refine ⟨spaced_of depth (by simp [Spaced]),
        ⟨spaced_layoutArms (depth + 1) arms,
          spaced_layoutFallback (depth + 1) fallback⟩,
        spaced_plain depth _, ?_⟩
      exact spacedEntries_nil
  | .bindText target text
  | .bindClasses target value
  | .bindScript target value
  | .bindUrl target value
  | .writeText text
  | .writeEscaped value
  | .renderComponent component =>
      rw [layoutStatement, spacedEntries_cons]
      exact ⟨spaced_of depth (by simp [Spaced]), spacedEntries_nil⟩
  | .writeTemporary source
  | .writeEscapedTemporary source
  | .writeCall source
  | .renderStyles source
  | .renderScripts sources =>
      rw [layoutStatement, spacedEntries_cons]
      exact ⟨spaced_plain depth _, spacedEntries_nil⟩
  | .rejected tag =>
      rw [layoutStatement, spacedEntries_cons]
      exact ⟨trivial, spacedEntries_nil⟩

theorem spaced_layoutBlock (depth : Nat) (block : List Statement) :
    SpacedEntries (layoutBlock depth block) := by
  match block with
  | [] => exact spacedEntries_nil
  | statement :: rest =>
      rw [layoutBlock, spacedEntries_append]
      exact ⟨spaced_layoutStatement depth statement,
        spaced_layoutBlock depth rest⟩

theorem spaced_layoutElse (depth : Nat) (block : Option (List Statement)) :
    SpacedEntries (layoutElse depth block) := by
  match block with
  | none => exact spacedEntries_nil
  | some block =>
      rw [layoutElse, spacedEntries_cons]
      exact ⟨spaced_plain depth _, spaced_layoutBlock (depth + 1) block⟩

theorem spaced_layoutArms (depth : Nat)
    (arms : List (Expression × List Statement)) :
    SpacedEntries (layoutArms depth arms) := by
  match arms with
  | [] => exact spacedEntries_nil
  | (pattern, block) :: rest =>
      simp only [layoutArms, List.cons_append, spacedEntries_cons,
        spacedEntries_append]
      exact ⟨spaced_of depth (by simp [Spaced]),
        spaced_layoutBlock (depth + 1) block, spaced_plain depth _,
        spaced_layoutArms depth rest⟩

theorem spaced_layoutFallback (depth : Nat)
    (block : Option (List Statement)) :
    SpacedEntries (layoutFallback depth block) := by
  match block with
  | none =>
      rw [layoutFallback, spacedEntries_cons]
      exact ⟨spaced_plain depth _, spacedEntries_nil⟩
  | some block =>
      simp only [layoutFallback, List.cons_append, spacedEntries_cons,
        spacedEntries_append]
      refine ⟨spaced_plain depth _, spaced_layoutBlock (depth + 1) block,
        spaced_plain depth _, ?_⟩
      exact spacedEntries_nil

end

/-! ## Modules -/

theorem spaced_layoutBanner (file : TemplateFile) (settings : Settings) :
    SpacedEntries (layoutBanner file settings) := by
  simp only [layoutBanner, spacedEntries_cons]
  exact ⟨spaced_of 0 (by simp [Spaced]), trivial, spaced_of 0 (by simp [Spaced]),
    spacedEntries_nil⟩

theorem spaced_layoutImports (file : TemplateFile) (settings : Settings) :
    SpacedEntries (layoutImports file settings) := by
  have runtime : ∀ item, Spaced (runtimeImport settings item).content :=
    fun item => spaced_of 1 (by simp [Spaced])
  intro entry member
  simp only [layoutImports, List.mem_append, List.mem_map] at member
  rcases member with ((fixed | html) | style) | ⟨path, -, rfl⟩
  · simp only [List.mem_cons, List.not_mem_nil, or_false] at fixed
    rcases fixed with rfl | rfl | rfl
    · exact spaced_plain 1 _
    · trivial
    · exact runtime _
  · split at html
    · simp only [List.mem_cons, List.not_mem_nil, or_false] at html
      rcases html with rfl | rfl | rfl
      · exact runtime _
      · exact spaced_plain 1 _
      · exact runtime _
    · simp at html
  · split at style
    · rw [List.mem_singleton] at style
      subst style
      exact runtime _
    · simp at style
  · exact spaced_of 1 (by simp [Spaced])

theorem spaced_layoutHeader (file : TemplateFile) (settings : Settings) :
    SpacedEntries (layoutHeader file settings) :=
  (spacedEntries_append _ _).mpr
    ⟨spaced_layoutBanner file settings, spaced_layoutImports file settings⟩

theorem spaced_layoutSignature (name parameters : Expression)
    (result : String) :
    Spaced (layoutSignature name parameters result).content :=
  spaced_of 1 (by simp [Spaced])

theorem spaced_layoutArguments (arguments : List String)
    {rest : List Fragment} (spaced : Spaced rest) :
    Spaced (layoutArguments arguments ++ rest) := by
  match arguments with
  | [] => exact spaced
  | [argument] => exact spaced
  | argument :: next :: more =>
      exact spaced_layoutArguments (next :: more) spaced

theorem spaced_layoutBuilder (template : StyleTemplate) :
    SpacedEntries (layoutBuilder template) := by
  have properties : SpacedEntries
      ((template.properties.map lowerProperty).map
        (layoutStyleStatement 2)) := by
    intro entry member
    rw [List.mem_map] at member
    rcases member with ⟨statement, -, rfl⟩
    cases statement <;> exact spaced_of 2 (by simp [Spaced])
  simp only [layoutBuilder, List.cons_append, spacedEntries_cons,
    spacedEntries_append]
  exact ⟨spaced_plain 2 _, properties, spaced_of 2 (by simp [Spaced]),
    spacedEntries_nil⟩

theorem spaced_layoutRecord (template : ScriptTemplate) :
    SpacedEntries (layoutRecord template) := by
  have call : Spaced
      (([.words "call: tempera::safe_script(",
          .quoted template.functionName, .words ", &["] ++
        layoutArguments template.arguments ++ [.words "]),"]) ++
        [.words "\n"]) := by
    simp only [List.append_assoc]
    exact spaced_layoutArguments _ (by simp [Spaced])
  simp only [layoutRecord, spacedEntries_cons]
  exact ⟨spaced_of 3 (by simp [Spaced]), spaced_of 3 (by simp [Spaced]),
    spaced_of 3 call, spacedEntries_nil⟩

theorem spaced_layoutFunction (function : Declaration × List Statement) :
    SpacedEntries (layoutFunction function) := by
  rcases function with ⟨template | template | template, body⟩
  · simp only [layoutFunction, layoutHtml, closureStart, List.cons_append,
      List.nil_append, spacedEntries_cons, spacedEntries_append]
    exact ⟨trivial, spaced_layoutSignature _ _ _, spaced_plain 2 _,
      spaced_plain 3 _, spaced_plain 3 _, spaced_layoutBlock 3 body,
      spaced_plain 3 _, spaced_plain 2 _, spaced_plain 1 _, spacedEntries_nil⟩
  · simp only [layoutFunction, layoutStyle, List.cons_append,
      spacedEntries_cons, spacedEntries_append]
    exact ⟨trivial, spaced_layoutSignature _ _ _, spaced_layoutBuilder template,
      spaced_plain 1 _, spacedEntries_nil⟩
  · simp only [layoutFunction, layoutScript, List.cons_append,
      spacedEntries_cons, spacedEntries_append]
    exact ⟨trivial, spaced_layoutSignature _ _ _, spaced_plain 2 _,
      spaced_layoutRecord template, spaced_plain 2 _, spaced_plain 1 _,
      spacedEntries_nil⟩

theorem spaced_layoutModule (file : TemplateFile) (settings : Settings) :
    Spaced ((layoutModule file settings).flatMap Entry.content) := by
  apply SpacedEntries.flatMap
  rw [layoutModule_eq]
  simp only [spacedEntries_append, spacedEntries_cons]
  refine ⟨⟨spaced_layoutHeader file settings, ?_⟩, spaced_plain 0 _,
    spacedEntries_nil⟩
  intro entry member
  rw [List.mem_flatMap] at member
  rcases member with ⟨function, -, inFunction⟩
  exact spaced_layoutFunction function entry inFunction

theorem copies_layoutHeader (file : TemplateFile) (settings : Settings) :
    (layoutHeader file settings).flatMap Entry.copies =
      file.package :: file.imports := by
  have imports : (file.imports.map fun path =>
      Entry.of 1 [.words "use ", .copied path, .words ";"]).flatMap
        Entry.copies = file.imports := by
    induction file.imports with
    | nil => rfl
    | cons path rest inductionHypothesis =>
        rw [List.map_cons, List.flatMap_cons, inductionHypothesis,
          Entry.copies_of]
        rfl
  simp only [layoutHeader, layoutBanner, layoutImports, List.flatMap_append,
    imports]
  cases file.hasHtml <;> cases file.hasStyle <;>
    simp [runtimeImport, copies]

theorem copies_layoutSignature (name parameters : Expression)
    (result : String) :
    (layoutSignature name parameters result).copies = [name, parameters] := by
  simp [layoutSignature, copies]

theorem copies_layoutArguments (arguments : List String) :
    copies (layoutArguments arguments) = [] := by
  match arguments with
  | [] => rfl
  | [argument] => rfl
  | argument :: next :: more => exact copies_layoutArguments (next :: more)

theorem copies_layoutBuilder (template : StyleTemplate) :
    (layoutBuilder template).flatMap Entry.copies =
      template.properties.flatMap StyleProperty.expressions := by
  have properties : ((template.properties.map lowerProperty).map
      (layoutStyleStatement 2)).flatMap Entry.copies =
        template.properties.flatMap StyleProperty.expressions := by
    induction template.properties with
    | nil => rfl
    | cons property rest inductionHypothesis =>
        rw [List.map_cons, List.map_cons, List.flatMap_cons,
          List.flatMap_cons, inductionHypothesis]
        cases property <;>
          simp [lowerProperty, layoutStyleStatement, copies,
            StyleProperty.expressions]
  simp only [layoutBuilder, List.cons_append, List.flatMap_cons,
    List.flatMap_append, properties, Entry.copies_plain, List.nil_append]
  simp [copies]

theorem copies_layoutRecord (template : ScriptTemplate) :
    (layoutRecord template).flatMap Entry.copies = [] := by
  simp only [layoutRecord, List.flatMap_cons, Entry.copies_of, copies_append,
    copies_layoutArguments]
  simp [copies]

theorem copies_layoutFunction (declaration : Declaration) (last : Nat)
    (accepted : declaration.rejectedTag? = none) :
    ((layoutFunction (declaration, (lowerDeclaration declaration last).1)
      ).flatMap Entry.copies).Perm declaration.expressions := by
  cases declaration with
  | html template =>
      have body : (lowerDeclaration (.html template) last).1 =
          (lowerNodes template.children last).1 := rfl
      simp only [body, layoutFunction, layoutHtml, htmlSignature,
        closureOpening, closureStart, closureResult, closureEnd, functionEnd,
        List.flatMap_cons, List.flatMap_append, List.flatMap_nil,
        copies_layoutBlock, copies_layoutSignature, Entry.copies_plain,
        Entry.copies_blank, List.append_nil, List.nil_append,
        Declaration.expressions, List.cons_append]
      exact ((expressions_lowerNodes template.children last accepted).cons
        _).cons _
  | style template =>
      simp [layoutFunction, layoutStyle, copies_layoutSignature,
        copies_layoutBuilder, Declaration.expressions]
  | script template =>
      simp [layoutFunction, layoutScript, copies_layoutSignature,
        copies_layoutRecord, Declaration.expressions]

theorem copies_lowerDeclarations (declarations : List Declaration)
    (last : Nat) (accepted : rejectedInDeclarations? declarations = none) :
    (((lowerDeclarations declarations last).1.flatMap
      layoutFunction).flatMap Entry.copies).Perm
      (declarations.flatMap Declaration.expressions) := by
  induction declarations generalizing last with
  | nil => exact .refl _
  | cons declaration rest inductionHypothesis =>
      simp only [rejectedInDeclarations?, Option.or_eq_none_iff] at accepted
      rw [lowerDeclarations_cons, List.flatMap_cons, List.flatMap_append,
        List.flatMap_cons]
      exact (copies_layoutFunction declaration last accepted.1).append
        (inductionHypothesis _ accepted.2)

/-- An accepted file has one copy of every expression. -/
theorem copies_layoutModule {file : TemplateFile} (settings : Settings)
    (accepted : file.rejectedTag? = none) :
    (copies ((layoutModule file settings).flatMap Entry.content)).Perm
      file.expressions := by
  rw [copies_flatMap_content, layoutModule_eq]
  simp only [List.flatMap_append, copies_layoutHeader, moduleBodies,
    List.flatMap_cons, List.flatMap_nil, Entry.copies_plain, List.append_nil]
  exact (copies_lowerDeclarations file.declarations 0 accepted).append_left _

end Templating.Code

import Templating.Proofs.Digest.Identifier
import Templating.Proofs.Render.Delivery
import Templating.Style.Class

/-!
# Which class an identifier stands for

A page has the rule of a class once for each identifier, so an identifier has to
say which class it is.  It says the name of the style template and the first
digits of the digest of its declarations, and nothing in the two can be taken
for the other.  Only classes of one template with one digest stand in for each
other.
-/

namespace Templating.Style

open Digest Render

/-- The class comes from a style template. -/
def StyledClass.IsFinished (styled : StyledClass) : Prop :=
  ∃ name declarations, styled = .ofDeclarations name declarations

theorem namedStyles_append_styled (before later : List Class)
    (styled : StyledClass) :
    namedStyles (before ++ .styled styled :: later) =
      namedStyles before ++ (styled.id, styled.rule) :: namedStyles later := by
  simp [namedStyles, styledClasses]

/-- Two classes of style templates have one identifier if they have one name
and one digest. -/
theorem id_ofDeclarations_inj {name other declarations content : String} :
    (StyledClass.ofDeclarations name declarations).id =
        (StyledClass.ofDeclarations other content).id ↔
      name = other ∧ hexPrefix declarations keptDigits =
        hexPrefix content keptDigits :=
  classIdentifier_inj

section Call

variable {depth : Nat} {stage after : Stage depth} {classes : List Class}

/-- A call registers the identifier of a class only for a class with the same
name and the same digest. -/
theorem mem_writtenStyles_iff
    (finished : ∀ styled, .styled styled ∈ classes → styled.IsFinished)
    (ok : renderStyles classes stage = .ok () after)
    (name declarations : String) :
    classIdentifier name declarations ∈ after.scope.writtenStyles ↔
      classIdentifier name declarations ∈ stage.scope.writtenStyles ∨
        ∃ content, .styled (.ofDeclarations name content) ∈ classes ∧
          hexPrefix content keptDigits = hexPrefix declarations keptDigits := by
  rw [(Rendering.renderStyles_ok ok).1, Scope.writtenStyles, Option.getD_some,
    Registry.mem_insertAll]
  refine or_congr Iff.rfl ?_
  constructor
  · intro registered
    rcases List.mem_map.mp registered with ⟨entry, member, same⟩
    rcases mem_namedStyles.mp member with ⟨styled, listed, rfl⟩
    rcases finished styled listed with ⟨other, content, rfl⟩
    rcases classIdentifier_inj.mp same with ⟨rfl, digits⟩
    exact ⟨content, listed, digits⟩
  · rintro ⟨content, listed, digits⟩
    refine List.mem_map.mpr ⟨_, mem_namedStyles.mpr ⟨_, listed, rfl⟩, ?_⟩
    exact classIdentifier_inj.mpr ⟨rfl, digits⟩

/-- The rule of a class is written unless its identifier was registered or a
class before it has the same name and the same digest. -/
theorem mem_block_of_first {before later : List Class}
    {name declarations : String}
    (finished : ∀ styled, .styled styled ∈ before → styled.IsFinished)
    (fresh : classIdentifier name declarations ∉ stage.scope.writtenStyles)
    (isFirst : ∀ content, .styled (.ofDeclarations name content) ∈ before →
      hexPrefix content keptDigits ≠ hexPrefix declarations keptDigits) :
    let styled := StyledClass.ofDeclarations name declarations
    (styled.id, styled.rule) ∈
      firstOccurrences stage.scope.writtenStyles.names
        (namedStyles (before ++ .styled styled :: later)) := by
  intro styled
  rw [namedStyles_append_styled]
  apply mem_firstOccurrences_of_first fresh
  intro entry member same
  rcases mem_namedStyles.mp member with ⟨earlier, listed, rfl⟩
  rcases finished earlier listed with ⟨other, content, rfl⟩
  rcases id_ofDeclarations_inj.mp same with ⟨rfl, digits⟩
  exact isFirst content listed digits

end Call

/-- The digits in an identifier are four hexadecimal digits for any content, so
the identifier of a class and the name of a script function each determine the
template's name and the digits.  If the digits of two contents do not collide,
classes with one identifier are the same class.  A page leaves out the rule of a
class only for a class of the same name and the same digits: one that the scope
had registered or one that stands before it in the call. -/
theorem identifier_determines_template :
    (∀ text, (hexPrefix text keptDigits).toList.length = 4 ∧
      ∀ digit ∈ (hexPrefix text keptDigits).toList,
        digit ∈ "0123456789abcdef".toList) ∧
    (∀ name other declarations content,
      classIdentifier name declarations = classIdentifier other content ↔
        name = other ∧ hexPrefix declarations keptDigits =
          hexPrefix content keptDigits) ∧
    (∀ name other body content,
      functionIdentifier name body = functionIdentifier other content ↔
        name = other ∧
          hexPrefix body keptDigits = hexPrefix content keptDigits) ∧
    (∀ name other declarations content,
      (hexPrefix declarations keptDigits = hexPrefix content keptDigits →
        declarations = content) →
      let first := StyledClass.ofDeclarations name declarations
      let second := StyledClass.ofDeclarations other content
      first.id = second.id → first.rule = second.rule) ∧
    (∀ {depth : Nat} {stage after : Stage depth} {classes : List Class},
      (∀ styled, .styled styled ∈ classes → styled.IsFinished) →
      renderStyles classes stage = .ok () after →
      (∀ name declarations,
        classIdentifier name declarations ∈ after.scope.writtenStyles ↔
          classIdentifier name declarations ∈ stage.scope.writtenStyles ∨
            ∃ content, .styled (.ofDeclarations name content) ∈ classes ∧
              hexPrefix content keptDigits =
                hexPrefix declarations keptDigits) ∧
      ∃ block,
        after.channel.content = stage.channel.content ++
          blockBytes "<style type=\"text/css\">" "</style>" block ∧
        ∀ before name declarations later,
          let styled := StyledClass.ofDeclarations name declarations
          classes = before ++ .styled styled :: later →
          styled.id ∉ stage.scope.writtenStyles →
          (∀ content, .styled (.ofDeclarations name content) ∈ before →
            hexPrefix content keptDigits ≠
              hexPrefix declarations keptDigits) →
          (styled.id, styled.rule) ∈ block) := by
  refine ⟨?_, fun _ _ _ _ => classIdentifier_inj,
    fun _ _ _ _ => functionIdentifier_inj, ?_, ?_⟩
  · intro text
    exact ⟨length_hexPrefix text (by decide),
      fun _ member => mem_digits_of_mem_hexPrefix member⟩
  · intro name other declarations content noCollision first second same
    rcases id_ofDeclarations_inj.mp same with ⟨rfl, digits⟩
    obtain rfl := noCollision digits
    rfl
  · intro depth stage after classes finished ok
    refine ⟨mem_writtenStyles_iff finished ok, _,
      (Rendering.renderStyles_ok ok).2, ?_⟩
    rintro before name declarations later styled rfl fresh isFirst
    apply mem_block_of_first _ fresh isFirst
    intro earlier listed
    exact finished earlier (List.mem_append_left _ listed)

/-- A class, and a class of a template that is named like its identifier. -/
def lookalikes : List StyledClass :=
  [.ofDeclarations "tile" "color:red;", .ofDeclarations "tile_050e" "color:red;"]

/-- A page that uses both has both rules. -/
theorem lookalikes_identifier_determines_template :
    (StyledClass.ofDeclarations "tile" "color:red;").id = "tile_050e" ∧
      ∃ after : Stage 0,
        renderStyles (lookalikes.map .styled)
            ⟨.empty, (Channel.sink .unlimited).onTop⟩ = .ok () after ∧
        ∃ block,
          after.channel.content =
            blockBytes "<style type=\"text/css\">" "</style>" block ∧
          ∀ styled ∈ lookalikes, (styled.id, styled.rule) ∈ block := by
  refine ⟨by decide +kernel, ?_⟩
  let start : Stage 0 := ⟨.empty, (Channel.sink .unlimited).onTop⟩
  have succeeds :
      (EStateM.run' (renderStyles (lookalikes.map .styled)) start).isSome =
        true := by
    decide +kernel
  rcases rendered : renderStyles (lookalikes.map .styled) start with
    ⟨_, after⟩ | ⟨cause, after⟩
  · have finished : ∀ styled, .styled styled ∈ lookalikes.map Class.styled →
        styled.IsFinished := by
      intro styled listed
      simp only [lookalikes, List.map_cons, List.map_nil, List.mem_cons,
        List.not_mem_nil, or_false, Class.styled.injEq] at listed
      rcases listed with rfl | rfl <;> exact ⟨_, _, rfl⟩
    rcases (identifier_determines_template.2.2.2.2 finished rendered).2 with
      ⟨block, content, supplied⟩
    refine ⟨after, rfl, block, content, ?_⟩
    simp only [lookalikes, List.forall_mem_cons]
    refine ⟨?_, ?_, List.forall_mem_nil _⟩
    · apply supplied [] _ _ _ rfl Registry.not_mem_empty
      intro content isEarlier
      exact absurd isEarlier List.not_mem_nil
    · apply supplied [.styled (.ofDeclarations "tile" "color:red;")] _ _ []
        rfl Registry.not_mem_empty
      intro content isEarlier
      rw [List.mem_singleton, Class.styled.injEq] at isEarlier
      have names := (id_ofDeclarations_inj.mp
        (congrArg StyledClass.id isEarlier)).1
      exact absurd names (by decide)
  · delta EStateM.run' EStateM.run at succeeds
    rw [rendered] at succeeds
    cases succeeds

end Templating.Style

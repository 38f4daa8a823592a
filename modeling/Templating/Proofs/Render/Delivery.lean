import Templating.Proofs.Output.Content
import Templating.Proofs.Output.Growth
import Templating.Proofs.Render.FirstOccurrences
import Templating.Render.Component

/-!
# Deliveries

What a rendering that succeeds does to its stage: how the scope changes and
which bytes are appended to the content of the channel.  A rendering on a
buffer of its own appends the same bytes as the rendering it wraps.
-/

namespace Templating.Render

/-- The bytes of a block around the texts of entries; no block around an empty
text. -/
def blockBytes (opening closing : String) (entries : List (String × String)) :
    Bytes :=
  let text := String.join (entries.map Prod.snd)
  if text.isEmpty then []
  else Text.bytes opening ++ Text.bytes text ++ Text.bytes closing

/-- Styled classes as entries of the registry. -/
def namedStyles (classes : List Style.Class) : List (String × String) :=
  (Style.styledClasses classes).map fun styled => (styled.id, styled.rule)

theorem mem_namedStyles {classes : List Style.Class}
    {entry : String × String} :
    entry ∈ namedStyles classes ↔ ∃ styled, .styled styled ∈ classes ∧
      (styled.id, styled.rule) = entry := by
  unfold namedStyles Style.styledClasses
  rw [List.mem_map]
  constructor
  · rintro ⟨styled, member, same⟩
    rcases List.mem_filterMap.mp member with ⟨ofClass, isListed, isStyled⟩
    cases ofClass with
    | constant name => cases isStyled
    | styled other =>
        cases isStyled
        exact ⟨styled, isListed, same⟩
  · rintro ⟨styled, isListed, same⟩
    exact ⟨styled, List.mem_filterMap.mpr ⟨_, isListed, rfl⟩, same⟩

/-- Scripts as entries of the registry. -/
def namedScripts (scripts : List Script) : List (String × String) :=
  scripts.map fun script => (script.name, script.function)

variable {depth : Nat}

/-- The stage has some more content and the same scope. -/
structure Wrote (data : Bytes) (stage after : Stage depth) : Prop where
  scope : after.scope = stage.scope
  content : after.channel.content = stage.channel.content ++ data

theorem Wrote.trans {first second : Bytes} {stage between after : Stage depth}
    (wrote : Wrote first stage between) (more : Wrote second between after) :
    Wrote (first ++ second) stage after := by
  constructor
  · rw [more.scope, wrote.scope]
  · rw [more.content, wrote.content, List.append_assoc]

namespace Rendering

variable {stage after : Stage depth}

theorem bind_eq_ok {α β : Type} {first : Rendering depth α}
    {next : α → Rendering depth β} {result : β} :
    (first >>= next) stage = .ok result after ↔
      ∃ value between, first stage = .ok value between ∧
        next value between = .ok result after := by
  show EStateM.bind first next stage = _ ↔ _
  unfold EStateM.bind
  cases first stage with
  | ok value between =>
      constructor
      · intro ok
        exact ⟨value, between, rfl, ok⟩
      · rintro ⟨_, _, same, ok⟩
        rw [EStateM.Result.ok.injEq] at same
        rw [same.1, same.2]
        exact ok
  | error cause between => simp

theorem pure_eq_ok {α : Type} {value result : α} :
    (pure value : Rendering depth α) stage = .ok result after ↔
      value = result ∧ stage = after := by
  show EStateM.Result.ok value stage = _ ↔ _
  rw [EStateM.Result.ok.injEq]

theorem scope_bind {α : Type} (next : Scope → Rendering depth α)
    (stage : Stage depth) : (scope >>= next) stage = next stage.scope stage :=
  rfl

theorem setScope_eq (other : Scope) (stage : Stage depth) :
    setScope other stage = .ok () { stage with scope := other } :=
  rfl

theorem setScope_bind {α : Type} (other : Scope)
    (next : Unit → Rendering depth α) (stage : Stage depth) :
    (setScope other >>= next) stage = next () { stage with scope := other } :=
  rfl

theorem buffered_bind {α : Type} (next : Nat → Rendering depth α)
    (stage : Stage depth) :
    (buffered >>= next) stage = next stage.channel.buffered stage :=
  rfl

theorem write_ok {text : String} (ok : write text stage = .ok () after) :
    Wrote (Text.bytes text) stage after := by
  rw [write, writeBytes] at ok
  split at ok
  · rename_i written
    rw [EStateM.Result.ok.injEq] at ok
    rw [← ok.2]
    exact ⟨rfl, Channel.content_writeAll written⟩
  · cases ok

/-- What a single write delivers is a first part of its text. -/
theorem offer_ok {text : String} (ok : offer text stage = .ok () after) :
    ∃ data, data <+: Text.bytes text ∧ Wrote data stage after := by
  rw [offer] at ok
  have content :=
    Channel.content_write (depth + 1) stage.channel (Text.bytes text)
  split at ok
  · rename_i written
    rw [written] at content
    rw [EStateM.Result.ok.injEq] at ok
    rw [← ok.2]
    exact ⟨_, List.take_prefix _ _, rfl, content⟩
  · cases ok

theorem flush_ok (ok : flush stage = .ok () after) : Wrote [] stage after := by
  rw [flush] at ok
  have content := Channel.content_flush (depth + 1) stage.channel
  split at ok
  · rename_i flushed
    rw [flushed] at content
    rw [EStateM.Result.ok.injEq] at ok
    rw [← ok.2]
    refine ⟨rfl, ?_⟩
    rw [List.append_nil]
    exact content
  · cases ok

/-- A rendering that succeeded on a buffer of its own left everything to the
channel below. -/
theorem wrapped_ok {inner : Rendering (depth + 1) Unit}
    (ok : wrapped inner stage = .ok () after) :
    ∃ between, inner ⟨stage.scope, stage.channel.onTop⟩ = .ok () between ∧
      after.scope = between.scope ∧
      after.channel.content = between.channel.content := by
  rw [wrapped] at ok
  split at ok
  · rename_i between ran
    split at ok
    · rename_i flushed
      rw [EStateM.Result.ok.injEq] at ok
      rw [← ok.2]
      exact ⟨between, ran, rfl, Channel.content_drop_flush flushed⟩
    · cases ok
  · cases ok

theorem writeBlock_ok {opening closing : String}
    {entries : List (String × String)}
    (ok : writeBlock opening (String.join (entries.map Prod.snd)) closing
      stage = .ok () after) :
    Wrote (blockBytes opening closing entries) stage after := by
  rw [writeBlock] at ok
  rw [blockBytes]
  split at ok
  · rename_i empty
    rw [pure_eq_ok] at ok
    rw [← ok.2, if_pos empty]
    exact ⟨rfl, (List.append_nil _).symm⟩
  · rename_i nonempty
    rcases bind_eq_ok.mp ok with ⟨_, opened, first, ok⟩
    rcases bind_eq_ok.mp ok with ⟨_, filled, second, third⟩
    rw [if_neg nonempty]
    exact ((write_ok first).trans (write_ok second)).trans (write_ok third)

theorem renderStyles_ok {classes : List Style.Class}
    (ok : renderStyles classes stage = .ok () after) :
    after.scope = { stage.scope with
        styles := some (stage.scope.writtenStyles.insertAll
          ((namedStyles classes).map Prod.fst)) } ∧
      after.channel.content = stage.channel.content ++
        blockBytes "<style type=\"text/css\">" "</style>"
          (firstOccurrences stage.scope.writtenStyles.names
            (namedStyles classes)) := by
  rw [renderStyles, scope_bind] at ok
  simp only [collectNew_eq] at ok
  rw [setScope_bind] at ok
  have wrote := writeBlock_ok ok
  exact ⟨wrote.scope, wrote.content⟩

theorem renderScripts_ok {scripts : List Script}
    (ok : renderScripts scripts stage = .ok () after) :
    after.scope = { stage.scope with
        scripts := some (stage.scope.writtenScripts.insertAll
          ((namedScripts scripts).map Prod.fst)) } ∧
      after.channel.content = stage.channel.content ++
        blockBytes "<script type=\"text/javascript\">" "</script>"
          (firstOccurrences stage.scope.writtenScripts.names
            (namedScripts scripts)) := by
  rw [renderScripts, scope_bind] at ok
  simp only [collectNew_eq] at ok
  rw [setScope_bind] at ok
  have wrote := writeBlock_ok ok
  exact ⟨wrote.scope, wrote.content⟩

/-! ## Unlimited sinks -/

theorem write_of_unlimited (unlimited : stage.channel.bottom.room = none)
    (text : String) :
    ∃ after, write text stage = .ok () after ∧
      after.channel.bottom.room = none := by
  have written := Channel.writeAll_of_unlimited (Text.bytes text) unlimited
  have still := (Channel.grows_writeAll stage.channel (Text.bytes text)).unlimited
    unlimited
  rcases result : Channel.writeAll (depth + 1) stage.channel (Text.bytes text)
    with ⟨outcome, channel⟩
  rw [result] at written still
  dsimp only at written still
  refine ⟨{ stage with channel := channel }, ?_, still⟩
  rw [write, writeBytes, result, written]

theorem writeBlock_of_unlimited (unlimited : stage.channel.bottom.room = none)
    (opening text closing : String) :
    ∃ after, writeBlock opening text closing stage = .ok () after := by
  rw [writeBlock]
  split
  · exact ⟨stage, rfl⟩
  · rcases write_of_unlimited unlimited opening with ⟨opened, first, room⟩
    rcases write_of_unlimited room text with ⟨filled, second, room⟩
    rcases write_of_unlimited room closing with ⟨after, third, _⟩
    refine ⟨after, bind_eq_ok.mpr ⟨(), opened, first, ?_⟩⟩
    exact bind_eq_ok.mpr ⟨(), filled, second, third⟩

/-- Scripts that are used above an unlimited sink reach the page. -/
theorem renderScripts_of_unlimited
    (unlimited : stage.channel.bottom.room = none) (scripts : List Script) :
    ∃ after, renderScripts scripts stage = .ok () after := by
  rw [renderScripts, scope_bind]
  simp only [setScope_bind]
  apply writeBlock_of_unlimited
  exact unlimited

end Rendering

end Templating.Render

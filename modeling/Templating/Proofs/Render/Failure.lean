import Templating.Proofs.Render.Delivery

/-!
# Blocks that failed

The names of a block are registered before the block is written.  If the
writing fails, some of the block is missing and yet all of its names stay
registered: whoever renders the same classes or scripts in that scope again gets
nothing, wherever the output goes.

Style and script blocks differ in the registry that they keep and in their tags
only, so everything is shown once for a kind of blocks.
-/

namespace Templating.Render

variable {depth : Nat}

/-! ## Writes that failed -/

/-- The stage has a first part of some content more but not all of it, and the
same scope. -/
structure Cut (data : Bytes) (stage after : Stage depth) : Prop where
  scope : after.scope = stage.scope
  content : ∃ part, part <+: data ∧ part.length < data.length ∧
    after.channel.content = stage.channel.content ++ part

/-- What was to come later is missing as well. -/
theorem Cut.early {first : Bytes} {stage after : Stage depth}
    (cut : Cut first stage after) (second : Bytes) :
    Cut (first ++ second) stage after := by
  rcases cut.content with ⟨part, isFirst, shorter, content⟩
  refine ⟨cut.scope, part, ?_, ?_, content⟩
  · exact isFirst.trans (List.prefix_append _ _)
  · rw [List.length_append]
    exact Nat.lt_add_right _ shorter

/-- What was written before stays written. -/
theorem Cut.late {first second : Bytes} {stage between after : Stage depth}
    (wrote : Wrote first stage between) (cut : Cut second between after) :
    Cut (first ++ second) stage after := by
  rcases cut.content with ⟨part, isFirst, shorter, content⟩
  refine ⟨cut.scope.trans wrote.scope, first ++ part, ?_, ?_, ?_⟩
  · exact (List.prefix_append_right_inj first).mpr isFirst
  · simp only [List.length_append]
    exact Nat.add_lt_add_left shorter _
  · rw [content, wrote.content, List.append_assoc]

namespace Rendering

variable {stage after : Stage depth} {cause : OutputError}

theorem bind_eq_error {α β : Type} {first : Rendering depth α}
    {next : α → Rendering depth β} :
    (first >>= next) stage = .error cause after ↔
      first stage = .error cause after ∨
        ∃ value between, first stage = .ok value between ∧
          next value between = .error cause after := by
  show EStateM.bind first next stage = _ ↔ _
  unfold EStateM.bind
  cases first stage with
  | ok value between =>
      constructor
      · intro error
        exact .inr ⟨value, between, rfl, error⟩
      · rintro (error | ⟨_, _, same, error⟩)
        · cases error
        · rw [EStateM.Result.ok.injEq] at same
          rw [same.1, same.2]
          exact error
  | error other between => simp

theorem write_error {text : String}
    (error : write text stage = .error cause after) :
    Cut (Text.bytes text) stage after := by
  rw [write, writeBytes] at error
  split at error
  · cases error
  · rename_i failed
    cases error
    exact ⟨rfl, Channel.content_writeAll_error failed⟩

/-- A block can fail only if there is something to write, and then it is cut,
whichever of its three writes failed. -/
theorem writeBlock_error {opening closing : String}
    {entries : List (String × String)}
    (error : writeBlock opening (String.join (entries.map Prod.snd)) closing
      stage = .error cause after) :
    entries ≠ [] ∧ Cut (blockBytes opening closing entries) stage after := by
  rw [writeBlock] at error
  rw [blockBytes]
  split at error
  · cases error
  rename_i nonempty
  rw [if_neg nonempty]
  refine ⟨?_, ?_⟩
  · rintro rfl
    exact nonempty rfl
  rcases bind_eq_error.mp error with failed | ⟨_, opened, first, error⟩
  · rw [List.append_assoc]
    exact (write_error failed).early _
  rcases bind_eq_error.mp error with failed | ⟨_, filled, second, failed⟩
  · exact (Cut.late (write_ok first) (write_error failed)).early _
  · exact Cut.late ((write_ok first).trans (write_ok second))
      (write_error failed)

end Rendering

/-! ## Kinds of blocks -/

/-- A kind of blocks: the registry that it keeps in a scope, and its tags. -/
structure BlockKind where
  /-- The registry; empty if there is none yet. -/
  known : Scope → Registry
  /-- The scope with another registry. -/
  keep : Registry → Scope → Scope
  opening : String
  closing : String
  known_keep : ∀ registry scope, known (keep registry scope) = registry
  keep_keep : ∀ registry other scope,
    keep registry (keep other scope) = keep registry scope

namespace BlockKind

def styles : BlockKind where
  known := Scope.writtenStyles
  keep registry scope := { scope with styles := some registry }
  opening := "<style type=\"text/css\">"
  closing := "</style>"
  known_keep _ _ := rfl
  keep_keep _ _ _ := rfl

def scripts : BlockKind where
  known := Scope.writtenScripts
  keep registry scope := { scope with scripts := some registry }
  opening := "<script type=\"text/javascript\">"
  closing := "</script>"
  known_keep _ _ := rfl
  keep_keep _ _ _ := rfl

/-- Registers the names of entries and writes the new entries in one block. -/
def render (kind : BlockKind) (entries : List (String × String)) :
    Rendering depth Unit := fun stage =>
  let (registry, text) := collectNew (kind.known stage.scope) entries
  writeBlock kind.opening text kind.closing
    { stage with scope := kind.keep registry stage.scope }

theorem render_styles (classes : List Style.Class) :
    (renderStyles classes : Rendering depth Unit) =
      styles.render (namedStyles classes) :=
  rfl

theorem render_scripts (used : List Script) :
    (renderScripts used : Rendering depth Unit) =
      scripts.render (namedScripts used) :=
  rfl

/-- The entries of a block are lost: part of the block is missing at the stage,
but all names are registered, a new one among them. -/
structure Lost (kind : BlockKind) (entries : List (String × String))
    (stage failed : Stage depth) : Prop where
  /-- The registry has all names, and the rest of the scope is unchanged. -/
  scope : failed.scope = kind.keep
    ((kind.known stage.scope).insertAll (entries.map Prod.fst)) stage.scope
  fresh : ∃ entry ∈ entries, entry.1 ∉ kind.known stage.scope ∧
    entry.1 ∈ kind.known failed.scope
  content : ∃ part,
    part <+: blockBytes kind.opening kind.closing
        (firstOccurrences (kind.known stage.scope).names entries) ∧
      part.length < (blockBytes kind.opening kind.closing
        (firstOccurrences (kind.known stage.scope).names entries)).length ∧
      failed.channel.content = stage.channel.content ++ part

variable {kind : BlockKind} {entries : List (String × String)}
  {stage failed : Stage depth}

theorem lost_of_error {cause : OutputError}
    (error : kind.render entries stage = .error cause failed) :
    kind.Lost entries stage failed := by
  rw [render] at error
  simp only [collectNew_eq] at error
  rcases Rendering.writeBlock_error error with ⟨nonempty, cut⟩
  have scope := cut.scope
  refine ⟨scope, ?_, cut.content⟩
  rcases List.exists_mem_of_ne_nil _ nonempty with ⟨entry, kept⟩
  have member := mem_of_mem_firstOccurrences kept
  refine ⟨entry, member, fresh_of_mem_firstOccurrences kept, ?_⟩
  rw [scope, kind.known_keep, Registry.mem_insertAll]
  exact .inr (List.mem_map_of_mem member)

/-- Nothing happens if all names are registered. -/
theorem render_known {registry : Registry} {scope : Scope}
    (kept : stage.scope = kind.keep registry scope)
    (known : ∀ entry ∈ entries, entry.1 ∈ registry) :
    kind.render entries stage = .ok () stage := by
  have collected : collectNew (kind.known stage.scope) entries =
      (registry, "") := by
    rw [kept, kind.known_keep]
    exact collectNew_known known
  have unchanged : kind.keep registry stage.scope = stage.scope := by
    rw [kept, kind.keep_keep]
  rw [render, collected]
  show writeBlock kind.opening "" kind.closing
    ⟨kind.keep registry stage.scope, stage.channel⟩ = _
  rw [unchanged]
  rfl

/-- A lost block never comes back. -/
theorem Lost.again (lost : kind.Lost entries stage failed) {other : Nat}
    {later : Stage other} (same : later.scope = failed.scope) :
    kind.render entries later = .ok () later := by
  apply render_known (same.trans lost.scope)
  intro entry member
  rw [Registry.mem_insertAll]
  exact .inr (List.mem_map_of_mem member)

end BlockKind

/-- A call that failed to write its block has registered all its names, new ones
among them, although part of the block is missing.  A later call with the same
classes or scripts in this scope succeeds and writes nothing, on any channel. -/
theorem failed_block_registered {stage failed : Stage depth}
    {cause : OutputError} :
    (∀ classes, renderStyles classes stage = .error cause failed →
      BlockKind.styles.Lost (namedStyles classes) stage failed ∧
        ∀ {other} (later : Stage other), later.scope = failed.scope →
          renderStyles classes later = .ok () later) ∧
    ∀ used, renderScripts used stage = .error cause failed →
      BlockKind.scripts.Lost (namedScripts used) stage failed ∧
        ∀ {other} (later : Stage other), later.scope = failed.scope →
          renderScripts used later = .ok () later := by
  constructor
  · intro classes error
    rw [BlockKind.render_styles] at error
    have lost := BlockKind.lost_of_error error
    refine ⟨lost, ?_⟩
    intro other later same
    rw [BlockKind.render_styles]
    exact lost.again same
  · intro used error
    rw [BlockKind.render_scripts] at error
    have lost := BlockKind.lost_of_error error
    refine ⟨lost, ?_⟩
    intro other later same
    rw [BlockKind.render_scripts]
    exact lost.again same

/-- A full buffer above a sink that refuses everything. -/
def brimful : Channel 1 :=
  .buffer (List.replicate bufferCapacity 32) (.sink (.limited 0 .refuses))

theorem handDown_refused {pending : Bytes} (nonempty : pending ≠ []) :
    handDown (Channel.write 0) (.sink (.limited 0 .refuses)) pending =
      (.error .closed, pending, .sink (.limited 0 .refuses)) := by
  have refused : Channel.write 0 (.sink (.limited 0 .refuses)) pending =
      (.error .closed, .sink (.limited 0 .refuses)) := by
    simp [Channel.write, Sink.write, Sink.limited, Sink.acceptance, nonempty]
  rw [handDown, if_neg (by simpa using nonempty), refused]

theorem write_brimful (text : String) (nonempty : Text.bytes text ≠ [])
    (scope : Scope) :
    Rendering.write text (⟨scope, brimful⟩ : Stage 0) =
      .error .closed ⟨scope, brimful⟩ := by
  have positive : 0 < (Text.bytes text).length := List.length_pos_iff.mpr nonempty
  have some : List.replicate bufferCapacity (32 : UInt8) ≠ [] := by
    rw [ne_eq, List.replicate_eq_nil_iff]
    decide
  have delivery : Channel.writeAll 1 brimful (Text.bytes text) =
      (.error .closed, brimful) := by
    rw [brimful, Channel.writeAll_buffer, Channel.makeRoom,
      if_pos (by simpa using positive), handDown_refused some]
  rw [Rendering.write, Rendering.writeBytes, delivery]

/-- The rule of `a` was not written when the call failed, and it is not written
afterwards either. -/
theorem brimful_block_registered :
    ∃ failed : Stage 0,
      renderStyles [.styled ⟨"a", ".a\x7b\x7d"⟩] ⟨.withStyles ["z"], brimful⟩ =
          .error .closed failed ∧
        failed.channel = brimful ∧
        failed.scope.writtenStyles.names = ["z", "a"] ∧
        renderStyles [.styled ⟨"a", ".a\x7b\x7d"⟩]
            (⟨failed.scope, (Channel.sink .unlimited).onTop⟩ : Stage 0) =
          .ok () ⟨failed.scope, (Channel.sink .unlimited).onTop⟩ := by
  have error :
      renderStyles [.styled ⟨"a", ".a\x7b\x7d"⟩]
          (⟨.withStyles ["z"], brimful⟩ : Stage 0) =
        .error .closed ⟨.withStyles ["z", "a"], brimful⟩ := by
    have refused := write_brimful "<style type=\"text/css\">" (by decide)
      (.withStyles ["z", "a"])
    rw [renderStyles, Rendering.scope_bind]
    simp only [collectNew_eq]
    rw [Rendering.setScope_bind, writeBlock, if_neg (by decide)]
    exact Rendering.bind_eq_error.mpr (.inl refused)
  have lost := failed_block_registered.1 _ error
  exact ⟨_, error, rfl, rfl, lost.2 _ rfl⟩

end Templating.Render

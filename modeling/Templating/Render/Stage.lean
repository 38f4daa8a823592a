import Templating.Output.Channel
import Templating.Render.Step

/-!
# Stages

A stage is what a component acts on: the scope of its tree and the channel that
its output goes to.  A rendering is a computation on a stage that may fail;
what it did before it failed stays done.
-/

namespace Templating.Render

/-- A scope and the channel that output goes to. -/
structure Stage (depth : Nat) where
  scope : Scope
  channel : Channel (depth + 1)

/-- A computation on a stage that may fail.  What it did before stays done. -/
abbrev Rendering (depth : Nat) := EStateM OutputError (Stage depth)

namespace Rendering

variable {depth : Nat}

/-- Writes bytes to the channel. -/
def writeBytes (data : Bytes) : Rendering depth Unit := fun stage =>
  match Channel.writeAll (depth + 1) stage.channel data with
  | (.ok (), channel) => .ok () { stage with channel := channel }
  | (.error cause, channel) => .error cause { stage with channel := channel }

/-- Writes a text to the channel. -/
def write (text : String) : Rendering depth Unit :=
  writeBytes (Text.bytes text)

/-- Offers a text to the channel in a single write.  What the channel does not
take is lost, and that is no failure. -/
def offer (text : String) : Rendering depth Unit := fun stage =>
  match Channel.write (depth + 1) stage.channel (Text.bytes text) with
  | (.ok _, channel) => .ok () { stage with channel := channel }
  | (.error cause, channel) => .error cause { stage with channel := channel }

def flush : Rendering depth Unit := fun stage =>
  match Channel.flush (depth + 1) stage.channel with
  | (.ok (), channel) => .ok () { stage with channel := channel }
  | (.error cause, channel) => .error cause { stage with channel := channel }

def scope : Rendering depth Scope := return (← get).scope

def setScope (scope : Scope) : Rendering depth Unit :=
  modify fun stage => { stage with scope := scope }

/-- The number of bytes in the innermost buffer. -/
def buffered : Rendering depth Nat := return (← get).channel.buffered

/-- Writes a word in brackets. -/
def report (word : String) : Rendering depth Unit :=
  write ("[" ++ word ++ "]")

/-- The answer to a yes-or-no question. -/
def answer (truth : Bool) : String :=
  if truth then "true" else "false"

/-- Runs a computation on a buffer of its own.  The buffer is flushed if that
succeeded, and handed down as far as possible if not. -/
def wrapped (inner : Rendering (depth + 1) Unit) : Rendering depth Unit :=
  fun stage =>
    match inner ⟨stage.scope, stage.channel.onTop⟩ with
    | .ok () after =>
        match Channel.flush (depth + 2) after.channel with
        | (.ok (), channel) => .ok () ⟨after.scope, channel.drop⟩
        | (.error cause, channel) => .error cause ⟨after.scope, channel.drop⟩
    | .error cause after => .error cause ⟨after.scope, after.channel.drop⟩

/-- Runs a computation in another scope and comes back to this one. -/
def inScope (other : Scope) (inner : Rendering depth Unit) :
    Rendering depth Unit :=
  fun stage =>
    match inner ⟨other, stage.channel⟩ with
    | .ok () after => .ok () ⟨stage.scope, after.channel⟩
    | .error cause after => .error cause ⟨stage.scope, after.channel⟩

end Rendering

end Templating.Render

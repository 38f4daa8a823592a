import Templating.Json.Form
import Templating.Json.Record
import Templating.Settings

/-!
# JSON form of settings

Settings are a plain record.  A missing version is left out; both fields may be
missing when settings are read.
-/

namespace Templating

open Json (record optional decodeText decodeOption)
open Json.Place (inRecord needed)

namespace Settings

/-- The version is left out when there is none. -/
def encode (settings : Settings) : Json :=
  let version :=
    match settings.version with
    | some version => [("version", Json.text version)]
    | none => []
  .object (version ++ [("runtimePath", .text settings.runtimePath)])

def decode (value : Json) : Except JsonFault Settings := do
  let fields ← record ["version", "runtimePath"] value
  return ⟨← optional fields "version" none (decodeOption decodeText),
    ← optional fields "runtimePath" defaultRuntimePath decodeText⟩

def passesOver : Json.Place → Bool :=
  inRecord [("version", needed), ("runtimePath", needed)]

instance : JsonForm Settings := ⟨encode, decode, passesOver⟩

end Settings

end Templating

import Templating.Json.Form
import Templating.Json.Record
import Templating.SourceMap
import Templating.Template

/-!
# JSON form of positions and source maps

Positions, spans, expressions and source maps are plain records.  The fields of
a position are its three counters, and the fields of a span are called `from`
and `to`.  Each record passes over the fields that it does not ask for.
-/

namespace Templating

open Json (record required decodeText decodeUInt32 decodeList)
open Json.Place (inItems inRecord needed)

namespace Position

def encode (position : Position) : Json :=
  .object
    [("index", .integer (.ofUInt32 position.index)),
      ("line", .integer (.ofUInt32 position.line)),
      ("col", .integer (.ofUInt32 position.column))]

def decode (value : Json) : Except JsonFault Position := do
  let fields ← record ["index", "line", "col"] value
  return ⟨← required fields "index" decodeUInt32,
    ← required fields "line" decodeUInt32,
    ← required fields "col" decodeUInt32⟩

def passesOver : Json.Place → Bool :=
  inRecord [("index", needed), ("line", needed), ("col", needed)]

instance : JsonForm Position := ⟨encode, decode, passesOver⟩

end Position

namespace Span

def encode (span : Span) : Json :=
  .object [("from", span.start.encode), ("to", span.stop.encode)]

def decode (value : Json) : Except JsonFault Span := do
  let fields ← record ["from", "to"] value
  return ⟨← required fields "from" Position.decode,
    ← required fields "to" Position.decode⟩

def passesOver : Json.Place → Bool :=
  inRecord [("from", Position.passesOver), ("to", Position.passesOver)]

instance : JsonForm Span := ⟨encode, decode, passesOver⟩

end Span

namespace Expression

def encode (expression : Expression) : Json :=
  .object [("value", .text expression.value), ("range", expression.span.encode)]

def decode (value : Json) : Except JsonFault Expression := do
  let fields ← record ["value", "range"] value
  return ⟨← required fields "value" decodeText,
    ← required fields "range" Span.decode⟩

def passesOver : Json.Place → Bool :=
  inRecord [("value", needed), ("range", Span.passesOver)]

instance : JsonForm Expression := ⟨encode, decode, passesOver⟩

end Expression

namespace Mapping

def encode (mapping : Mapping) : Json :=
  .object
    [("source", mapping.source.encode), ("generated", mapping.generated.encode)]

def decode (value : Json) : Except JsonFault Mapping := do
  let fields ← record ["source", "generated"] value
  return ⟨← required fields "source" Span.decode,
    ← required fields "generated" Span.decode⟩

def passesOver : Json.Place → Bool :=
  inRecord [("source", Span.passesOver), ("generated", Span.passesOver)]

end Mapping

namespace SourceMap

def encode (map : SourceMap) : Json :=
  .object [("mappings", .array (map.mappings.toList.map Mapping.encode))]

def decode (value : Json) : Except JsonFault SourceMap := do
  let fields ← record ["mappings"] value
  let mappings ← required fields "mappings" (decodeList Mapping.decode)
  return ⟨mappings.toArray⟩

def passesOver : Json.Place → Bool :=
  inRecord [("mappings", inItems Mapping.passesOver)]

instance : JsonForm SourceMap := ⟨encode, decode, passesOver⟩

end SourceMap

end Templating

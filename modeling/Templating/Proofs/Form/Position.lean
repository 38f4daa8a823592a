import Templating.Form.Position
import Templating.Form.Settings
import Templating.Proofs.Json.Record

/-!
# Positions, source maps and settings are decoded from their forms

The forms of plain records are discrete values and are decoded to what was
encoded.
-/

namespace Templating

open Json

namespace Position

@[simp]
theorem discrete_encode (position : Position) :
    position.encode.discrete = true := rfl

@[simp]
theorem decode_encode (position : Position) :
    decode position.encode = .ok position := by
  simp [decode, encode]

end Position

namespace Span

@[simp]
theorem discrete_encode (span : Span) : span.encode.discrete = true := rfl

@[simp]
theorem decode_encode (span : Span) : decode span.encode = .ok span := by
  simp [decode, encode]

end Span

namespace Expression

@[simp]
theorem discrete_encode (expression : Expression) :
    expression.encode.discrete = true := rfl

@[simp]
theorem decode_encode (expression : Expression) :
    decode expression.encode = .ok expression := by
  simp [decode, encode]

end Expression

namespace Mapping

@[simp]
theorem discrete_encode (mapping : Mapping) :
    mapping.encode.discrete = true := rfl

@[simp]
theorem decode_encode (mapping : Mapping) :
    decode mapping.encode = .ok mapping := by
  simp [decode, encode]

end Mapping

namespace SourceMap

theorem discrete_encode (map : SourceMap) : map.encode.discrete = true := by
  have mappings :
      discreteItems (map.mappings.toList.map Mapping.encode) = true :=
    discreteItems_map fun mapping _ => mapping.discrete_encode
  simp [encode, discrete, discreteFields, mappings]

theorem decode_encode (map : SourceMap) : decode map.encode = .ok map := by
  simp [decode, encode]

end SourceMap

namespace Settings

theorem discrete_encode (settings : Settings) :
    settings.encode.discrete = true := by
  rcases settings with ⟨_ | version, runtimePath⟩ <;> rfl

theorem decode_encode (settings : Settings) :
    decode settings.encode = .ok settings := by
  rcases settings with ⟨_ | version, runtimePath⟩
  · simp [decode, encode]
  · simp [decode, encode, decodeOption, Except.map]

end Settings

end Templating

import Templating.Digest.Sha256
import Templating.Text.Bytes

/-!
# Identifiers from content

Names for style classes and script functions are made of a template's name and
the first digits of the digest of its content, so equal content has equal
names in every run.
-/

namespace Templating.Digest

/-- The digits of a digest that an identifier keeps. -/
def keptDigits : Nat := 4

/-- The 64 hexadecimal digits of the digest of a text. -/
def hex (text : String) : String :=
  String.ofList (sha256 (Text.bytes text)).hex

/-- The first `length` digits of the digest of a text. -/
def hexPrefix (text : String) (length : Nat) : String :=
  String.ofList ((sha256 (Text.bytes text)).hex.take length)

/-- The class name of a style template with these declarations. -/
def classIdentifier (name declarations : String) : String :=
  name ++ "_" ++ hexPrefix declarations keptDigits

/-- The function name of a script template with this body. -/
def functionIdentifier (name body : String) : String :=
  "__templ_" ++ name ++ "_" ++ hexPrefix body keptDigits

end Templating.Digest

/-!
# Safe addresses

The text before the first colon of an address is its scheme, unless a slash
comes before that colon.  Addresses without a scheme and with a harmless scheme
pass; a fixed address takes the place of all others.
-/

namespace Templating.Render

/-- Stands in for a refused address. -/
def failedUrl : String := "about:invalid#TemplFailedSanitizationURL"

/-- The schemes that pass, in lower case. -/
def allowedSchemes : List String := ["http", "https", "mailto"]

/-- The text before the first colon. -/
def beforeColon? (address : List Char) : Option (List Char) :=
  if address.contains ':' then some (address.takeWhile (· ≠ ':')) else none

/-- The scheme of an address. -/
def scheme? (address : List Char) : Option (List Char) :=
  (beforeColon? address).filter fun scheme => !scheme.contains '/'

/-- The scheme passes in any letter case. -/
def isAllowedScheme (scheme : List Char) : Bool :=
  allowedSchemes.any fun allowed => allowed.toList = scheme.map Char.toLower

/-- The address has no scheme or a scheme that passes. -/
def isSafeUrl (address : List Char) : Bool :=
  match scheme? address with
  | none => true
  | some scheme => isAllowedScheme scheme

/-- The address if it passes, and the fixed one otherwise. -/
def safeUrl (address : String) : String :=
  if isSafeUrl address.toList then address else failedUrl

end Templating.Render

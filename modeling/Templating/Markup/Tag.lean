/-!
# Tags

The elements that have neither content nor a closing tag.
-/

namespace Templating.Markup

/-- The void elements of HTML. -/
def voidTags : List String :=
  ["area", "base", "br", "col", "embed", "hr", "img", "input", "link", "meta",
    "param", "source", "track", "wbr"]

/-- The tag names a void element; names are compared letter by letter, case
included. -/
def isVoidTag (tag : String) : Bool :=
  voidTags.contains tag

end Templating.Markup

import Templating.Template

/-!
# Rejected elements

A void element must not have children, not even blanks.  The first element in
the order of the document that breaks this rule decides whether a file can be
generated.
-/

namespace Templating

mutual

/-- The tag of the first void element with children in a node. -/
def Node.rejectedTag? : Node → Option String
  | .element tag isVoid _ children =>
      if isVoid && !children.isEmpty then some tag else rejectedIn? children
  | .loop _ body => rejectedIn? body
  | .conditional _ thenBranch elseBranch =>
      (rejectedIn? thenBranch).or (rejectedInBranch? elseBranch)
  | .choice _ cases fallback =>
      (rejectedInCases? cases).or (rejectedInBranch? fallback)
  | .docType _ => none
  | .text _ => none
  | .whitespace _ => none
  | .interpolation _ => none
  | .call _ => none

/-- The tag of the first void element with children in nodes. -/
def rejectedIn? : List Node → Option String
  | [] => none
  | node :: rest => node.rejectedTag?.or (rejectedIn? rest)

/-- The same in a branch that may be missing. -/
def rejectedInBranch? : Option (List Node) → Option String
  | none => none
  | some nodes => rejectedIn? nodes

/-- The same in the bodies of cases. -/
def rejectedInCases? : List (Expression × List Node) → Option String
  | [] => none
  | (_, body) :: rest => (rejectedIn? body).or (rejectedInCases? rest)

end

/-- The tag of the first void element with children in a declaration. -/
def Declaration.rejectedTag? : Declaration → Option String
  | .html template => rejectedIn? template.children
  | .style _ => none
  | .script _ => none

/-- The tag of the first void element with children in declarations. -/
def rejectedInDeclarations? : List Declaration → Option String
  | [] => none
  | declaration :: rest =>
      declaration.rejectedTag?.or (rejectedInDeclarations? rest)

/-- The tag of the first void element with children in a file. -/
def TemplateFile.rejectedTag? (file : TemplateFile) : Option String :=
  rejectedInDeclarations? file.declarations

end Templating

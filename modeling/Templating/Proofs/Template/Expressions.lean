import Templating.Template

/-!
# Expressions of a template file

All expressions of a file in the order in which the file has them: the package,
the imports, and for every declaration its name, its parameters and what its
body holds.  An expression that occurs twice is listed twice.
-/

namespace Templating

/-- The expression of an attribute, if it has one. -/
def Attribute.expressions : Attribute → List Expression
  | .constant _ _ => []
  | .flag _ => []
  | .computed _ value => [value]
  | .conditional _ condition => [condition]

mutual

/-- The expressions of a node and of everything below it. -/
def Node.expressions : Node → List Expression
  | .docType _ => []
  | .element _ _ attributes children =>
      attributes.flatMap Attribute.expressions ++ nodeExpressions children
  | .text _ => []
  | .whitespace _ => []
  | .interpolation value => [value]
  | .loop header body => header :: nodeExpressions body
  | .conditional condition thenBranch elseBranch =>
      condition :: nodeExpressions thenBranch ++ branchExpressions elseBranch
  | .choice subject cases fallback =>
      subject :: caseExpressions cases ++ branchExpressions fallback
  | .call component => [component]

/-- The expressions of nodes in order. -/
def nodeExpressions : List Node → List Expression
  | [] => []
  | node :: rest => node.expressions ++ nodeExpressions rest

/-- The expressions of a branch that may be missing. -/
def branchExpressions : Option (List Node) → List Expression
  | none => []
  | some nodes => nodeExpressions nodes

/-- The patterns of cases and the expressions of their bodies. -/
def caseExpressions : List (Expression × List Node) → List Expression
  | [] => []
  | (pattern, body) :: rest =>
      pattern :: nodeExpressions body ++ caseExpressions rest

end

/-- The value of a computed style property. -/
def StyleProperty.expressions : StyleProperty → List Expression
  | .constant _ _ => []
  | .computed _ value => [value]

/-- The name, the parameters and the expressions of the body. -/
def Declaration.expressions : Declaration → List Expression
  | .html template =>
      template.name :: template.parameters :: nodeExpressions template.children
  | .style template =>
      template.name :: template.parameters ::
        template.properties.flatMap StyleProperty.expressions
  | .script template => [template.name, template.parameters]

/-- All expressions of a file. -/
def TemplateFile.expressions (file : TemplateFile) : List Expression :=
  file.package :: file.imports ++
    file.declarations.flatMap Declaration.expressions

end Templating

import Templating.Serve.Exchange

/-!
# Stylesheets

The rules of style classes can be served as one stylesheet instead of inside
every page.  A site answers requests for the stylesheet itself; in all others
it registers the classes as written and passes them on.
-/

namespace Templating.Serve

open Templating.Style (StyledClass)

/-- Where the stylesheet is served unless told otherwise. -/
def defaultStylesheetPath : String := "/styles/templ.css"

/-- The rules of some classes in order. -/
def stylesheet (classes : List StyledClass) : String :=
  String.join (classes.map (·.rule))

/-- Answers every request with the rules of some classes. -/
def serveStylesheet (classes : List StyledClass) : Handler := fun _ =>
  ⟨200, [("content-type", "text/css")], Text.bytes (stylesheet classes)⟩

/-- Style classes served beside the pages of another handler. -/
structure StyledSite where
  classes : List StyledClass
  path : String := defaultStylesheetPath
  next : Handler

/-- The request with the classes registered as written in its scope. -/
def Request.registerStyles (request : Request) (classes : List StyledClass) :
    Request :=
  let scope := request.scope.getD .empty
  let registry := scope.writtenStyles.insertAll (classes.map (·.id))
  { request with scope := some { scope with styles := some registry } }

/-- The stylesheet on its path; every other request is passed on with the
classes registered. -/
def StyledSite.handle (site : StyledSite) : Handler := fun request =>
  if request.path = site.path then
    serveStylesheet site.classes request
  else
    site.next (request.registerStyles site.classes)

end Templating.Serve

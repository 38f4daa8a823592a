import Templating.Serve.Exchange

/-!
# Pages

A page answers every request with a component.  If rendering fails, nothing of
it is sent: a handler for errors answers, or a fixed response.
-/

namespace Templating.Serve

open Templating.Render (Component)

/-- The body sent when rendering fails and nobody handles the error. -/
def renderFailureText : String := "tempera: failed to render template"

/-- The response when rendering fails and nobody handles the error. -/
def renderFailure : Response where
  status := 500
  headers := [("content-type", "text/plain; charset=utf-8")]
  body := Text.bytes renderFailureText

/-- A component with the way it is served. -/
structure Page where
  component : Component
  status : Nat := 200
  contentType : String := "text/html"
  onError : Option (Request → OutputError → Response) := none

/-- Renders the component in the scope of the request, or in a new one. -/
def Page.handle (page : Page) : Handler := fun request =>
  match page.component.render (request.scope.getD .empty) .unlimited with
  | (.ok (), _, sink) =>
      ⟨page.status, [("content-type", page.contentType)], sink.bytes⟩
  | (.error cause, _, _) =>
      match page.onError with
      | some answer => answer { request with scope := none } cause
      | none => renderFailure

end Templating.Serve

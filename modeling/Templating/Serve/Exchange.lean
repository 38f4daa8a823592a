import Templating.Render.Component

/-!
# Requests and responses

What a server hands to a handler and gets back.  Bodies are complete; a request
may carry the scope that its page is to be rendered in.
-/

namespace Templating.Serve

open Templating.Render (Scope)

structure Request where
  /-- The address that was asked for. -/
  target : String
  body : Bytes
  scope : Option Scope := none

structure Response where
  status : Nat
  /-- Names and values. -/
  headers : List (String × String)
  body : Bytes
  deriving DecidableEq, Repr

/-- The answer to every request. -/
abbrev Handler := Request → Response

/-- A character that ends a path. -/
def endsPath (character : Char) : Bool :=
  character = '?' || character = '#'

/-- A character that ends the part of an address that names a server. -/
def endsAuthority (character : Char) : Bool :=
  character = '/' || endsPath character

/-- The text behind the mark between scheme and server, if there is one. -/
def behindScheme? : List Char → Option (List Char)
  | [] => none
  | ':' :: '/' :: '/' :: rest => some rest
  | character :: rest =>
      if endsAuthority character then none else behindScheme? rest

/-- The path of a text that starts where the server's name has ended; a path
without characters is the root. -/
def pathFrom (characters : List Char) : List Char :=
  let path := characters.takeWhile fun character => !endsPath character
  if path.isEmpty then ['/'] else path

/-- The path of an address: what follows the server's name, up to a query or a
fragment, as it is written.  A lone star is its own path, and an address of a
server alone has none. -/
def pathChars (address : List Char) : List Char :=
  match address with
  | ['*'] => ['*']
  | '/' :: _ => pathFrom address
  | _ =>
      match behindScheme? address with
      | some rest =>
          pathFrom (rest.dropWhile fun character => !endsAuthority character)
      | none => []

/-- The path that a request asks for. -/
def Request.path (request : Request) : String :=
  String.ofList (pathChars request.target.toList)

end Templating.Serve

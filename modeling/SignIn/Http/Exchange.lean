/-
**Serving a request with its jar.**

Every request gets a jar of its own, made from its Cookie headers, and the cookies added to it
are written to the response, after the headers that the endpoint has set itself. An internal
failure becomes a response inside the jar's scope, so that its cookies are written too; with any
other failure, and when a cookie cannot be written, there is no response at all.
-/

import SignIn.Http.CookieHeader
import SignIn.Http.Path
import SignIn.Log

namespace SignIn.Exchange

/-- What an endpoint returns: its content, and the Set-Cookie headers it has set itself. -/
structure Page (α : Type) where
  content : α
  ownHeaders : List String

/-- The body of a response. -/
inductive Body (α : Type) where
  | content (value : α)
  /-- The text of an internal failure. -/
  | detail (text : String)

/-- What becomes of a request. -/
inductive Outcome (α : Type) where
  | response (status : Nat) (body : Body α) (setCookie : List String)
  /-- The endpoint's failure leaves the service. -/
  | escaped (failure : Failure)
  /-- An added cookie cannot be written. -/
  | unwritable (refusal : SetCookie.Refusal)

/-- An endpoint works on the jar of its request, and reports a page or a failure. -/
abbrev Endpoint (α : Type) := Jar → Jar × Report (Page α)

/-- The jar that a request carries; a request without one was not set up for cookies. -/
def carriedJar (path : String) : Option Jar → Report Jar
  | some jar => .silent (.ok jar)
  | none =>
    ⟨.error (.internal "cookie error"),
      [⟨.error, "Failed to get cookie jar", [("path", .text (Path.inAddress path))]⟩]⟩

/-- The response with given headers, after which the cookies of a jar are written. -/
def deliver {α : Type} (status : Nat) (body : Body α) (ownHeaders : List String) :
    Option Jar → Outcome α
  | none => .response status body ownHeaders
  | some jar =>
    match jar.apply ownHeaders with
    | (headers, none) => .response status body headers
    | (_, some refusal) => .unwritable refusal

/-- What becomes of a request after its endpoint, in the scope of a jar if there is one. -/
def conclude {α : Type} (scope : Option Jar) : Except Failure (Page α) → Outcome α
  | .ok page => deliver 200 (.content page.content) page.ownHeaders scope
  | .error (.internal message) => deliver 500 (.detail message) [] scope
  | .error failure => .escaped failure

/-- Serves a request by an endpoint that asks for the jar the request carries. -/
def serve {α : Type} (path : String) (carried : Option Jar) (endpoint : Endpoint α) :
    Outcome α × List Log.Entry :=
  let report := carriedJar path carried
  match report.outcome with
  | .ok jar =>
    let (left, ending) := endpoint jar
    (conclude (some left) ending.outcome, report.entries ++ ending.entries)
  | .error failure => (conclude none (.error failure), report.entries)

/-- Serves a request in the scope of a jar of its own, made from its Cookie headers. -/
def serveWithJar {α : Type} (path : String) (cookieHeaders : List String)
    (endpoint : Endpoint α) : Outcome α × List Log.Entry :=
  serve path (some (CookieHeader.jarOf cookieHeaders)) endpoint

end SignIn.Exchange

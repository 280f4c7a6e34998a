/-
**Requests that work on their jar.**

A request whose endpoint performs operations on the jar, sets headers of its own and then returns,
or fails.
-/

import SignIn.Cookie.Operation
import SignIn.Http.Exchange

namespace SignIn

/-- A request, and what its endpoint does. -/
structure Request where
  cookieHeaders : List String
  operations : List Jar.Operation
  /-- The Set-Cookie headers that the endpoint sets itself. -/
  ownHeaders : List String
  /-- The failure that the endpoint ends with, if it does not return. -/
  failure : Option Failure

namespace Request

/-- The path that every request asks for. -/
def path : String := "/run"

/-- The endpoint of a request, under a cookie policy. -/
def endpoint (policy : Policy) (request : Request) : Exchange.Endpoint (List Jar.Step) :=
  fun jar =>
    let steps := Jar.performAll policy jar request.operations
    let outcome :=
      match request.failure with
      | some failure => .error failure
      | none => .ok ⟨steps, request.ownHeaders⟩
    (Jar.afterAll policy jar request.operations, ⟨outcome, steps.flatMap (·.entries)⟩)

/-- Serves a request, in the scope of a jar of its own or without a jar. -/
def serve (withJar : Bool) (policy : Policy) (request : Request) :
    Exchange.Outcome (List Jar.Step) × List Log.Entry :=
  if withJar then Exchange.serveWithJar path request.cookieHeaders (request.endpoint policy)
  else Exchange.serve path none (request.endpoint policy)

end Request

end SignIn

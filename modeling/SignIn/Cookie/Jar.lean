/-
**Cookie jars.**

A jar belongs to one request. It holds the cookies that came with the request and, on top of
them, the cookies that were added while the request was served; the added ones are written to
the response:

* `get?_add`: an added cookie is read back, and no other name changes;
* `incoming_add`: what came with the request is never changed.
-/

import SignIn.Http.SetCookie
import SignIn.OrderedMap

namespace SignIn

/-- The cookies of one request. -/
structure Jar where
  /-- The cookies that came with the request. -/
  incoming : OrderedMap String String
  /-- The cookies added since, by name, in order of first addition. -/
  pending : OrderedMap String Cookie

namespace Jar

/-- The jar of a request that brought given cookies; of two with one name the later counts. -/
def ofIncoming (cookies : List (String × String)) : Jar :=
  ⟨OrderedMap.ofList cookies, OrderedMap.empty⟩

/-- The value of a cookie: of the added one, else of the one that came with the request. -/
def get? (jar : Jar) (key : String) : Option String :=
  match jar.pending.get? key with
  | some cookie => some cookie.value
  | none => jar.incoming.get? key

/-- Whether a cookie was added or came with the request. -/
def contains (jar : Jar) (key : String) : Bool :=
  jar.pending.contains key || jar.incoming.contains key

/-- The names of all cookies: those that came with the request, then those only added. -/
def keys (jar : Jar) : List String :=
  jar.incoming.keys ++ jar.pending.keys.filter fun key => !jar.incoming.contains key

/-- The number of different names. -/
def size (jar : Jar) : Nat :=
  (jar.incoming.keys ++ jar.pending.keys).eraseDups.length

/-- The added cookies in order of first addition. -/
def added (jar : Jar) : List Cookie :=
  jar.pending.values

/-- Adds a cookie; one of the same name gives way to it. -/
def add (jar : Jar) (cookie : Cookie) : Jar :=
  { jar with pending := jar.pending.insert cookie.key cookie }

/-- Writes cookies after the headers already there, up to the first that cannot be written. -/
def writeAll : List Cookie → (headers : List String) → List String × Option SetCookie.Refusal
  | [], headers => (headers, none)
  | cookie :: rest, headers =>
    match SetCookie.render cookie with
    | .ok header => writeAll rest (headers ++ [header])
    | .error refusal => (headers, some refusal)

/-- Writes the added cookies to a response with given headers. -/
def apply (jar : Jar) (headers : List String) : List String × Option SetCookie.Refusal :=
  writeAll jar.added headers

/-- **An added cookie is read back, and no other name changes.** -/
theorem get?_add (jar : Jar) (cookie : Cookie) (key : String) :
    (jar.add cookie).get? key = if key = cookie.key then some cookie.value else jar.get? key := by
  unfold get? add
  simp only [OrderedMap.get?_insert]
  by_cases same : key = cookie.key <;> simp [same]

/-- **What came with the request is never changed.** -/
@[simp] theorem incoming_add (jar : Jar) (cookie : Cookie) :
    (jar.add cookie).incoming = jar.incoming := rfl

end Jar

end SignIn

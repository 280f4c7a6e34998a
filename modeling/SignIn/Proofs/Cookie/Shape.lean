/-
**The shapes of a policy's cookies.**

Outside of development not every added cookie is secure: a removal is deliberately permissive.
What holds of every cookie that a policy's operations add is that it has one of three shapes,
which link its attributes to its name and value (`Cookie.Shape`). In development all of them are
permissive:

* `puts_follow`: whatever an operation of the policy puts follows the policy;
* `added_follow`: so does every added cookie after any run;
* `added_shape`: the shapes, and what follows for a client: no value is written without the mark
  of a secure cookie.

Cookies that overwrite each other need no thought: an added cookie is one of the history.
-/

import Mathlib.Logic.ExistsUnique
import SignIn.Proofs.Cookie.History
import SignIn.Proofs.Cookie.Writing
import SignIn.Proofs.Http.Header

namespace SignIn

namespace Cookie

/-- The shapes of a policy's cookies outside of development. -/
inductive Shape where
  /-- Secure, and bound to its own site. -/
  | bound
  /-- The secure state of an authorization, sent also when another site leads back here. -/
  | returning
  /-- The empty, permissive cookie that removes another one within a second. -/
  | removal
deriving DecidableEq

/-- Whether a cookie has a shape. -/
def HasShape (cookie : Cookie) : Shape → Prop
  | .bound => cookie.secure = true ∧ cookie.sameSite = .strict
  | .returning => cookie.secure = true ∧ cookie.sameSite = .lax ∧
      cookie.key = Reserved.oauthState.key
  | .removal => cookie.value = "" ∧ cookie.maxAge = Duration.oneSecond ∧ cookie.secure = false ∧
      cookie.sameSite = .lax

/-- The shape of a cookie is seen from two of its attributes, so it has at most one. -/
theorem HasShape.eq {cookie : Cookie} {shape : Shape} (has : cookie.HasShape shape) :
    shape = if cookie.secure then
      (if cookie.sameSite = .strict then .bound else .returning) else .removal := by
  cases shape with
  | bound => rw [has.1, has.2]; rfl
  | returning => rw [has.1, has.2.1]; rfl
  | removal => rw [has.2.2.1]; rfl

/-- Whether a cookie is one that a policy's operations may put. -/
structure Follows (policy : Policy) (cookie : Cookie) : Prop where
  path_eq : cookie.path = rootPath
  shape : policy.dev = false → ∃ shape, cookie.HasShape shape
  permissive : policy.dev = true → cookie.secure = false ∧ cookie.sameSite = .lax

variable {policy : Policy} {cookie : Cookie}

theorem follows_forMode {key value : String} {ttl : Duration}
    (made : cookie.toAttributes = .forMode policy.dev key value ttl) : Follows policy cookie := by
  refine ⟨by rw [made]; rfl, fun production => ?_, fun development => ?_⟩
  · rw [production] at made
    exact ⟨.bound, by rw [made]; rfl, by rw [made]; rfl⟩
  · rw [development] at made
    exact ⟨by rw [made]; rfl, by rw [made]; rfl⟩

theorem follows_removal {key : String}
    (made : cookie.toAttributes = .forMode true key "" Duration.oneSecond) :
    Follows policy cookie := by
  refine ⟨by rw [made]; rfl, fun _ => ⟨.removal, ?_⟩, fun _ => ?_⟩
  · exact ⟨by rw [made]; rfl, by rw [made]; rfl, by rw [made]; rfl, by rw [made]; rfl⟩
  · exact ⟨by rw [made]; rfl, by rw [made]; rfl⟩

theorem follows_oauthState (policy : Policy) (value : String) :
    Follows policy (policy.oauthState value) := by
  refine ⟨rfl, fun production => ⟨.returning, ?_, rfl, rfl⟩, fun development => ⟨?_, rfl⟩⟩
  · show (!policy.dev) = true
    rw [production]
    rfl
  · show (!policy.dev) = false
    rw [development]
    rfl

end Cookie

namespace Jar

/-! ### Operations -/

/-- The operations of a policy: all but the addition of a cookie made elsewhere. -/
def Operation.OfPolicy : Operation → Prop
  | .add _ => False
  | _ => True

theorem eq_of_put {attributes : Cookie.Attributes} {cookies : List Cookie}
    (put : ((attributes.check.mapError Cookie.Defect.failure).map fun cookie => [cookie]) =
      .ok cookies) : ∃ cookie : Cookie, cookie.toAttributes = attributes ∧ cookies = [cookie] := by
  cases checked : attributes.check with
  | error defect =>
    rw [checked] at put
    cases put
  | ok cookie =>
    rw [checked] at put
    cases put
    exact ⟨cookie, (Cookie.check_eq_ok_iff attributes cookie).mp checked, rfl⟩

/-- **One step.** Whatever an operation of the policy puts follows the policy. -/
theorem puts_follow {policy : Policy} {holds : String → Bool} {operation : Operation}
    (ofPolicy : operation.OfPolicy) {cookies : List Cookie}
    (put : operation.puts policy holds = .ok cookies) :
    ∀ cookie ∈ cookies, Cookie.Follows policy cookie := by
  have removals : ∀ reserved : List Reserved, ∀ cookie ∈ reserved.map fun one =>
      removal one.key one.key_ne, Cookie.Follows policy cookie := by
    intro reserved cookie member
    obtain ⟨one, -, rfl⟩ := List.mem_map.mp member
    exact Cookie.follows_removal rfl
  cases operation with
  | add recipe => exact ofPolicy.elim
  | remove key =>
    simp only [Operation.puts] at put
    split at put
    · obtain ⟨cookie, made, rfl⟩ := eq_of_put put
      intro other member
      rw [List.mem_singleton.mp member]
      exact Cookie.follows_removal made
    · cases put
      exact fun _ member => by cases member
  | removeReserved =>
    cases put
    exact removals _
  | clear =>
    cases put
    exact removals _
  | setSession access refresh =>
    cases put
    intro cookie member
    simp only [List.mem_cons, List.not_mem_nil, or_false] at member
    rcases member with rfl | rfl
    · exact Cookie.follows_forMode rfl
    · exact Cookie.follows_forMode rfl
  | authToken value =>
    cases put
    intro cookie member
    rw [List.mem_singleton.mp member]
    exact Cookie.follows_forMode rfl
  | refreshToken value =>
    cases put
    intro cookie member
    rw [List.mem_singleton.mp member]
    exact Cookie.follows_forMode rfl
  | oauthState value =>
    cases put
    intro cookie member
    rw [List.mem_singleton.mp member]
    exact Cookie.follows_oauthState policy value
  | build key value ttlMicros =>
    simp only [Operation.puts] at put
    split at put
    · obtain ⟨cookie, made, rfl⟩ := eq_of_put put
      intro other member
      rw [List.mem_singleton.mp member]
      exact Cookie.follows_forMode made
    · cases put
  | _ =>
    cases put
    exact fun _ member => by cases member

/-- **Whole runs.** Every added cookie after a run of the policy's operations follows the
policy. -/
theorem added_follow (policy : Policy) (incoming : OrderedMap String String)
    {operations : List Operation} (ofPolicy : ∀ operation ∈ operations, operation.OfPolicy) :
    ∀ cookie ∈ (afterAll policy (fresh incoming) operations).added,
      Cookie.Follows policy cookie := by
  intro cookie member
  have records := records_afterAll policy incoming operations
  exact forall_mem_after (fun operation inside _ _ put => puts_follow (ofPolicy operation inside) put)
    incoming cookie (records.mem_of_mem_added member)

/-- The header of a cookie with a shape: if a value can be read in it, it has the mark of a secure
cookie. -/
theorem secure_of_value {cookie : Cookie} {shape : Cookie.Shape} (has : cookie.HasShape shape)
    (path : cookie.path = Cookie.rootPath) {header : String}
    (written : SetCookie.render cookie = .ok header)
    (value : CookieHeader.decodedValue (SetCookie.codedIn header).toList ≠ []) :
    "Secure".toList ∈ SetCookie.attributesIn header := by
  have clean : ';' ∉ cookie.path.toList := by
    rw [path]
    decide
  have read : CookieHeader.decodedValue (SetCookie.codedIn header).toList =
      cookie.value.toList := by
    rw [SetCookie.codedIn_of_render written, String.toList_ofList,
      CookieHeader.decodedValue_codedValue]
  cases shape with
  | bound => exact SetCookie.secure_mem_attributesIn written clean has.1
  | returning => exact SetCookie.secure_mem_attributesIn written clean has.1
  | removal =>
    rw [read, has.1] at value
    exact absurd rfl value

/-- **The shapes of a policy's cookies.** After every run of a policy's operations, each added
cookie is hidden from scripts, has a name and the root path. Outside of development it has exactly
one of the three shapes, and of the headers that the jar writes, each one with a value has the
mark of a secure cookie; in development each added cookie is permissive. -/
theorem added_shape (policy : Policy) (incoming : OrderedMap String String)
    (operations : List Operation) (ofPolicy : ∀ operation ∈ operations, operation.OfPolicy) :
    let jar := afterAll policy (fresh incoming) operations
    (∀ cookie ∈ jar.added,
      cookie.httpOnly = true ∧ cookie.path = Cookie.rootPath ∧ cookie.key ≠ "" ∧
        (policy.dev = false → ∃! shape, cookie.HasShape shape) ∧
        (policy.dev = true → cookie.secure = false ∧ cookie.sameSite = .lax)) ∧
      (policy.dev = false → ∀ headers, ∃ written, (jar.apply headers).1 = headers ++ written ∧
        ∀ header ∈ written, CookieHeader.decodedValue (SetCookie.codedIn header).toList ≠ [] →
          "Secure".toList ∈ SetCookie.attributesIn header) := by
  intro jar
  have follow := added_follow policy incoming ofPolicy
  refine ⟨fun cookie member => ?_, fun production headers => ?_⟩
  · have follows := follow cookie member
    refine ⟨cookie.httpOnly_eq, follows.path_eq, cookie.key_ne, fun production => ?_,
      follows.permissive⟩
    obtain ⟨shape, has⟩ := follows.shape production
    exact ⟨shape, has, fun other also => also.eq.trans has.eq.symm⟩
  · obtain ⟨kept, left, written, parts, headersOf, all, -⟩ := writeAll_split jar.added headers
    refine ⟨written, all, fun header member value => ?_⟩
    obtain ⟨cookie, inside, rendered⟩ := exists_of_mem_written headersOf member
    have follows := follow cookie (parts ▸ List.mem_append_left left inside)
    obtain ⟨shape, has⟩ := follows.shape production
    exact secure_of_value has follows.path_eq rendered value

/-- A run outside of development in which a live cookie gives way to a removal and comes back as a
live one: all three shapes are there. -/
theorem added_shape_of_sign_in :
    let policy : Policy := ⟨false, Duration.oneSecond, Duration.oneSecond, Duration.oneSecond⟩
    let operations : List Operation := [.setSession "a" "r", .clear, .authToken "b",
      .oauthState "s"]
    let jar := afterAll policy (fresh OrderedMap.empty) operations
    (∀ operation ∈ operations, operation.OfPolicy) ∧
      jar.added.map (fun cookie => (cookie.key, cookie.value, cookie.secure)) =
        [("auth_token", "b", true), ("refresh_token", "", false), ("oauth_state", "s", true)] ∧
      ∀ cookie ∈ jar.added, ∃! shape, cookie.HasShape shape := by
  intro policy operations jar
  have ofPolicy : ∀ operation ∈ operations, operation.OfPolicy := by
    simp [operations, Operation.OfPolicy]
  refine ⟨ofPolicy, by decide, fun cookie member => ?_⟩
  have shaped := added_shape policy OrderedMap.empty operations ofPolicy
  exact (shaped.1 cookie member).2.2.2.1 rfl

end Jar

end SignIn

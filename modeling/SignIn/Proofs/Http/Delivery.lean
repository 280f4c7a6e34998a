/-
**Cookies are delivered all or not at all.**

What the client gets of the cookies that the endpoint of a request has put into its jar is told by
the history of the jar alone:

* `serve_eq_iff`: a request ends in exactly one way — with a response that has the header of every
  final cookie behind the endpoint's own headers, or without a response, because the endpoint failed
  or because a final cookie cannot be written;
* `cookies_delivered_all_or_none`: what that means for the headers that reach the client.
-/

import SignIn.Http.Request
import SignIn.Proofs.Cookie.Final
import SignIn.Proofs.Cookie.Writing

namespace SignIn

open SetCookie Exchange

/-! ### How a request ends -/

/-- The Set-Cookie headers that reach the client. -/
def Exchange.Outcome.setCookies {α : Type} : Outcome α → List String
  | response _ _ setCookie => setCookie
  | escaped _ | unwritable _ => []

namespace Request

/-- What came with a request. -/
def incoming (request : Request) : OrderedMap String String :=
  (CookieHeader.jarOf request.cookieHeaders).incoming

/-- The cookies that the endpoint puts into the jar of a request. -/
def history (policy : Policy) (request : Request) : History :=
  History.after policy request.incoming request.operations

/-- The jar that the endpoint leaves behind. -/
def left (policy : Policy) (request : Request) : Jar :=
  Jar.afterAll policy (CookieHeader.jarOf request.cookieHeaders) request.operations

/-- What the endpoint wants to be answered, and the Set-Cookie headers it has set itself: its page,
or the text of an internal failure. Another failure is not answered. -/
def answer? (policy : Policy) (request : Request) :
    Option (Nat × Body (List Jar.Step) × List String) :=
  match request.failure with
  | none => some (200, .content (Jar.performAll policy (CookieHeader.jarOf request.cookieHeaders)
      request.operations), request.ownHeaders)
  | some (.internal message) => some (500, .detail message, [])
  | some _ => none

/-- How a request ends, told by the history of its jar. -/
inductive Ends (policy : Policy) (request : Request) : Outcome (List Jar.Step) → Prop where
  /-- All final cookies are written, behind the endpoint's own headers. -/
  | delivered {status : Nat} {body : Body (List Jar.Step)} {own written : List String}
      (answered : request.answer? policy = some (status, body, own))
      (rendered : (request.history policy).final.map render = written.map .ok) :
      Ends policy request (.response status body (own ++ written))
  /-- A final cookie cannot be written; what was written before it is lost, too. -/
  | unwritable {status : Nat} {body : Body (List Jar.Step)} {own written : List String}
      {before behind : List Cookie} {cookie : Cookie} {refusal : Refusal}
      (answered : request.answer? policy = some (status, body, own))
      (parts : (request.history policy).final = before ++ cookie :: behind)
      (rendered : before.map render = written.map .ok) (refused : render cookie = .error refusal) :
      Ends policy request (.unwritable refusal)
  /-- The endpoint fails with a failure that is not answered. -/
  | escaped {failure : Failure} (failed : request.failure = some failure)
      (unanswered : request.answer? policy = none) : Ends policy request (.escaped failure)

variable (policy : Policy) (request : Request)

theorem added_left : (request.left policy).added = (request.history policy).final :=
  (Jar.records_afterAll policy request.incoming request.operations).added_eq

theorem serve_eq_conclude :
    (request.serve true policy).1 = conclude (some (request.left policy))
      (match request.failure with
        | some failure => .error failure
        | none => .ok ⟨Jar.performAll policy (CookieHeader.jarOf request.cookieHeaders)
            request.operations, request.ownHeaders⟩) := rfl

theorem serve_of_answer {status : Nat} {body : Body (List Jar.Step)} {own : List String}
    (answered : request.answer? policy = some (status, body, own)) :
    (request.serve true policy).1 =
      match Jar.writeAll (request.history policy).final own with
      | (headers, none) => .response status body headers
      | (_, some refusal) => .unwritable refusal := by
  rw [serve_eq_conclude, ← added_left]
  unfold answer? at answered
  split at answered
  · rename_i returned
    cases answered
    rw [returned]
    rfl
  · rename_i failed
    cases answered
    rw [failed]
    rfl
  · cases answered

theorem serve_of_unanswered {failure : Failure} (failed : request.failure = some failure)
    (unanswered : request.answer? policy = none) :
    (request.serve true policy).1 = .escaped failure := by
  rw [serve_eq_conclude, failed]
  unfold answer? at unanswered
  rw [failed] at unanswered
  cases failure with
  | internal message => cases unanswered
  | _ => rfl

theorem exists_failure_of_unanswered (unanswered : request.answer? policy = none) :
    ∃ failure, request.failure = some failure := by
  unfold answer? at unanswered
  split at unanswered
  · cases unanswered
  · cases unanswered
  · rename_i failure _ failed
    exact ⟨failure, failed⟩

theorem ends_of_answer {status : Nat} {body : Body (List Jar.Step)} {own : List String}
    (answered : request.answer? policy = some (status, body, own)) :
    request.Ends policy (request.serve true policy).1 := by
  obtain ⟨before, left, written, parts, rendered, headers, ending⟩ :=
    Jar.writeAll_split (request.history policy).final own
  rw [serve_of_answer policy request answered]
  rcases ending with ⟨rfl, complete⟩ | ⟨cookie, behind, refusal, rfl, refused, stopped⟩
  · have whole : Jar.writeAll (request.history policy).final own = (own ++ written, none) :=
      Prod.ext headers complete
    rw [List.append_nil] at parts
    rw [whole]
    exact .delivered answered (parts ▸ rendered)
  · have whole : Jar.writeAll (request.history policy).final own = (own ++ written, some refusal) :=
      Prod.ext headers stopped
    rw [whole]
    exact .unwritable answered parts rendered refused

/-- **A request ends in exactly one way.** -/
theorem serve_eq_iff (outcome : Outcome (List Jar.Step)) :
    (request.serve true policy).1 = outcome ↔ request.Ends policy outcome := by
  constructor
  · rintro rfl
    cases answered : request.answer? policy with
    | none =>
      obtain ⟨failure, failed⟩ := exists_failure_of_unanswered policy request answered
      rw [serve_of_unanswered policy request failed answered]
      exact .escaped failed answered
    | some answer => exact ends_of_answer policy request answered
  · intro ends
    cases ends with
    | @delivered _ _ own written answered rendered =>
      have whole := Jar.writeAll_append rendered [] own
      rw [List.append_nil] at whole
      rw [serve_of_answer policy request answered, whole]
      rfl
    | unwritable answered parts rendered refused =>
      rw [serve_of_answer policy request answered, parts, Jar.writeAll_append rendered,
        Jar.writeAll, refused]
    | escaped failed unanswered => exact serve_of_unanswered policy request failed unanswered

/-- Without an answer, or with a final cookie that cannot be written, nothing reaches the client. -/
theorem setCookies_eq_nil
    (spoilt : request.answer? policy = none ∨
      ∃ cookie ∈ (request.history policy).final, ∃ refusal, render cookie = .error refusal) :
    (request.serve true policy).1.setCookies = [] := by
  have ends := (serve_eq_iff policy request _).mp rfl
  generalize (request.serve true policy).1 = outcome at ends
  cases ends with
  | delivered answered rendered =>
    rcases spoilt with unanswered | ⟨cookie, member, refusal, refused⟩
    · rw [unanswered] at answered
      cases answered
    · have listed : render cookie ∈ (request.history policy).final.map render :=
        List.mem_map_of_mem member
      rw [rendered, refused] at listed
      obtain ⟨_, _, impossible⟩ := List.mem_map.mp listed
      cases impossible
  | unwritable _ _ _ _ => rfl
  | escaped _ _ => rfl

/-- **Cookies are delivered all or not at all.** A request ends in exactly one way. If it is
answered and every final cookie can be written, then the endpoint's own headers reach the client and
behind them one header to each name ever put into the jar, in order of first addition, of the cookie
put last under it; otherwise no header reaches the client. A request with idle operations only, such
as the removals of names that it did not bring, is answered with the endpoint's own headers. -/
theorem cookies_delivered_all_or_none :
    (∀ outcome, (request.serve true policy).1 = outcome ↔ request.Ends policy outcome) ∧
      ((request.history policy).final.map fun cookie => cookie.key) =
        (request.history policy).names ∧
      (∀ cookie ∈ (request.history policy).final,
        (request.history policy).latest? cookie.key = some cookie) ∧
      ((request.answer? policy = none ∨
          ∃ cookie ∈ (request.history policy).final, ∃ refusal, render cookie = .error refusal) →
        (request.serve true policy).1.setCookies = []) ∧
      (request.history policy = [] ↔
        ∀ operation ∈ request.operations, operation.Idle request.incoming) ∧
      (request.history policy = [] → ∀ status body own,
        request.answer? policy = some (status, body, own) →
          (request.serve true policy).1 = .response status body own) := by
  refine ⟨serve_eq_iff policy request, History.map_key_final _, ?_,
    setCookies_eq_nil policy request,
    History.after_eq_nil_iff policy request.incoming request.operations, ?_⟩
  · intro cookie member
    exact History.latest?_of_mem_final member
  · intro nothing status body own answered
    rw [serve_of_answer policy request answered, nothing]
    rfl

/-- A session whose access token is set twice, and the removal of a name that two Cookie headers
bring: three headers are delivered with the failure. With a name that is no token behind them, none
is, not even the endpoint's own; with the removal of an absent name, only that one. -/
theorem overwritten_token_is_delivered_once :
    let policy : Policy := ⟨true, Duration.oneSecond, Duration.oneSecond, Duration.oneSecond⟩
    let headers := ["theme=dark; lang=ko", "theme=\"x\""]
    let operations : List Jar.Operation := [.setSession "a" "r", .remove "theme", .authToken "b"]
    let failed : Request := ⟨headers, operations, ["own=1"], some (.internal "no jar")⟩
    let spoilt : Request := ⟨headers, operations ++ [.build "no token" "" 0], ["own=1"], none⟩
    let idle : Request := ⟨headers, [.remove "absent"], ["own=1"], none⟩
    let written := ["auth_token=b; HttpOnly; Max-Age=1; Path=/; SameSite=lax",
      "refresh_token=r; HttpOnly; Max-Age=1; Path=/; SameSite=lax",
      "theme=\"\"; HttpOnly; Max-Age=1; Path=/; SameSite=lax"]
    (failed.serve true policy).1 = .response 500 (.detail "no jar") written ∧
      (spoilt.serve true policy).1.setCookies = [] ∧
      (idle.serve true policy).1.setCookies = ["own=1"] := by
  intro policy headers operations failed spoilt idle written
  obtain ⟨ends, -⟩ := cookies_delivered_all_or_none policy failed
  obtain ⟨-, -, -, lost, -⟩ := cookies_delivered_all_or_none policy spoilt
  obtain ⟨-, -, -, -, -, kept⟩ := cookies_delivered_all_or_none policy idle
  have headersOf : (failed.history policy).final.map render = written.map .ok := by
    -- With the policy and the headers in their place the cookies can be computed.
    subst policy headers operations failed spoilt idle written
    rfl
  have last : (spoilt.history policy).final.map render =
      written.map .ok ++ [.error (.illegalKey "no token")] := by
    subst policy headers operations failed spoilt idle written
    rfl
  refine ⟨?_, ?_, ?_⟩
  · have delivered : failed.Ends policy (.response 500 (.detail "no jar") ([] ++ written)) :=
      .delivered rfl headersOf
    exact (ends _).mpr delivered
  · have refused : .error (.illegalKey "no token") ∈ (spoilt.history policy).final.map render := by
      rw [last]
      exact List.mem_append_right _ (List.mem_singleton_self _)
    obtain ⟨cookie, member, same⟩ := List.mem_map.mp refused
    exact lost (.inr ⟨cookie, member, _, same⟩)
  · rw [kept rfl _ _ _ rfl]
    rfl

end Request

end SignIn

/-
**Sessions of a client.**

A client remembers the coded values that jars write in Set-Cookie headers, and brings all of them
with its next request. Nothing is lost on the way, whatever the values are:

* `Remembers.visit`: a visit that is answered leaves the client remembering the latest value put
  under each name, in its coded form;
* `Remembers.get?_jarOf`: the jar made from what the client brings has the values themselves;
* `next_jar_reads_latest`: so, after every session, what the next request reads under a name is
  the value put last in any request before.
-/

import SignIn.Proofs.Http.Delivery
import SignIn.Proofs.Http.Header

namespace SignIn

open SetCookie

/-! ### Clients and their visits -/

/-- What a client remembers: coded values by name. -/
abbrev Client := OrderedMap String String

namespace Client

/-- Remembers the name and the coded value of each header; a new value takes the place of one that
was remembered under the same name. -/
def receive (client : Client) (headers : List String) : Client :=
  client.insertAll (headers.map fun header => (nameIn header, codedIn header))

/-- What the client brings: one header with everything it remembers. -/
def cookieHeaders (client : Client) : List String :=
  if client.entries.isEmpty then [] else [CookieHeader.write client.entries]

end Client

/-- One request of a client: what its endpoint does, and under which policy. -/
structure Visit where
  policy : Policy
  operations : List Jar.Operation
  /-- The Set-Cookie headers that the endpoint sets itself. -/
  ownHeaders : List String
  /-- The failure that the endpoint ends with, if it does not return. -/
  failure : Option Failure

namespace Visit

/-- What becomes of a visit. -/
def outcome (visit : Visit) (client : Client) : Exchange.Outcome (List Jar.Step) :=
  let request : Request :=
    ⟨client.cookieHeaders, visit.operations, visit.ownHeaders, visit.failure⟩
  (request.serve true visit.policy).1

/-- The jar that the endpoint leaves behind. -/
def left (visit : Visit) (client : Client) : Jar :=
  Jar.afterAll visit.policy (CookieHeader.jarOf client.cookieHeaders) visit.operations

/-- The cookies that are put into the jar of a visit. -/
def history (visit : Visit) (client : Client) : History :=
  History.after visit.policy (CookieHeader.jarOf client.cookieHeaders).incoming visit.operations

/-- The headers that the jar writes: those behind the endpoint's own. -/
def jarHeaders (visit : Visit) (client : Client) : List String :=
  match visit.outcome client with
  | .response _ (.content _) headers => headers.drop visit.ownHeaders.length
  | .response _ (.detail _) headers => headers
  | .escaped _ | .unwritable _ => []

/-- A visit is answered if there is a response, with all cookies of the jar written. -/
def Answered (visit : Visit) (client : Client) : Prop :=
  ∃ status body headers, visit.outcome client = .response status body headers

end Visit

/-- A client, and the cookies that were put into the jars of its visits so far. -/
structure Session where
  client : Client
  history : History

namespace Session

/-- A client that remembers nothing. -/
def start : Session := ⟨OrderedMap.empty, []⟩

/-- The session after one more visit. -/
def visit (session : Session) (visit : Visit) : Session :=
  ⟨session.client.receive (visit.jarHeaders session.client),
    session.history ++ visit.history session.client⟩

/-- The session after visits in turn. -/
def after (session : Session) (visits : List Visit) : Session :=
  visits.foldl Session.visit session

/-- Whether each visit is answered. -/
def AllAnswered : Session → List Visit → Prop
  | _, [] => True
  | session, visit :: rest =>
    visit.Answered session.client ∧ AllAnswered (session.visit visit) rest

end Session

/-! ### What a visit writes -/

namespace Visit

variable {visit : Visit} {client : Client}

theorem records_left (visit : Visit) (client : Client) :
    Jar.Records (CookieHeader.jarOf client.cookieHeaders).incoming (visit.history client)
      (visit.left client) :=
  Jar.records_afterAll visit.policy _ visit.operations

/-- After an answered visit each added cookie of its jar is written, in order. -/
theorem render_added (answered : visit.Answered client) :
    (visit.left client).added.map render = (visit.jarHeaders client).map .ok := by
  obtain ⟨status, body, headers, response⟩ := answered
  have ends := (Request.serve_eq_iff visit.policy
    ⟨client.cookieHeaders, visit.operations, visit.ownHeaders, visit.failure⟩ _).mp response
  rw [(visit.records_left client).added_eq]
  unfold jarHeaders
  rw [response]
  cases ends with
  | @delivered _ _ own written answer rendered =>
    unfold Request.answer? at answer
    split at answer
    · cases answer
      show _ = List.map _ (List.drop visit.ownHeaders.length (visit.ownHeaders ++ written))
      rw [List.drop_left]
      exact rendered
    · cases answer
      exact rendered
    · cases answer

/-- Whatever is written has a token for its name. -/
theorem isToken_of_mem_added (answered : visit.Answered client) {cookie : Cookie}
    (member : cookie ∈ (visit.left client).added) : isToken cookie.key.toList = true := by
  have written : render cookie ∈ (visit.left client).added.map render :=
    List.mem_map_of_mem member
  rw [render_added answered] at written
  obtain ⟨header, -, rendered⟩ := List.mem_map.mp written
  exact (exists_of_render rendered.symm).1

end Visit

/-! ### What a client remembers -/

/-- What a client remembers after a history: the latest value under each name, in its coded form.
Only tokens are remembered as names, since no other name is ever written. -/
structure Remembers (history : History) (client : Client) : Prop where
  token : ∀ key ∈ client.keys, isToken key.toList = true
  get?_eq : ∀ key, client.get? key =
    (history.latest? key).map fun cookie => String.ofList (codedValue cookie.value.toList)

theorem remembers_start : Remembers Session.start.history Session.start.client :=
  ⟨fun _ member => absurd member List.not_mem_nil, fun _ => rfl⟩

theorem map_read_of_render {cookies : List Cookie} {headers : List String}
    (rendered : cookies.map render = headers.map .ok) :
    (headers.map fun header => (nameIn header, codedIn header)) =
      cookies.map fun cookie => CookieHeader.coded (cookie.key, cookie.value) := by
  induction cookies generalizing headers with
  | nil =>
    rw [List.map_nil, eq_comm, List.map_eq_nil_iff] at rendered
    rw [rendered]
    rfl
  | cons cookie rest ih =>
    obtain ⟨header, others, rfl, first, later⟩ := List.map_eq_cons_iff.mp rendered.symm
    rw [List.map_cons, List.map_cons, ih later.symm, nameIn_of_render first.symm,
      codedIn_of_render first.symm]
    rfl

/-- A client that receives the headers of cookies takes over the latest of each name. -/
theorem Client.get?_receive (client : Client) {cookies : List Cookie} {headers : List String}
    (rendered : cookies.map render = headers.map .ok) (key : String) :
    (client.receive headers).get? key =
      ((History.latest? cookies key).map fun cookie =>
        String.ofList (codedValue cookie.value.toList)).or (client.get? key) := by
  unfold receive History.latest?
  rw [map_read_of_render rendered, OrderedMap.get?_insertAll, List.findRev?_eq_find?_reverse,
    List.findRev?_eq_find?_reverse, ← List.map_reverse, List.find?_map, Option.map_map]
  rfl

/-- **One visit.** A visit that is answered leaves the client remembering what was put, too. -/
theorem Remembers.visit {session : Session} {visit : Visit}
    (remembers : Remembers session.history session.client)
    (answered : visit.Answered session.client) :
    Remembers (session.visit visit).history (session.visit visit).client := by
  have rendered := visit.render_added answered
  have received := session.client.get?_receive rendered
  refine ⟨fun key member => ?_, fun key => ?_⟩
  · have known : ((session.client.receive (visit.jarHeaders session.client)).get? key).isSome :=
      (OrderedMap.mem_keys_iff _ key).mp member
    rw [received, Option.isSome_or, Option.isSome_map, Bool.or_eq_true] at known
    rcases known with new | old
    · obtain ⟨cookie, last⟩ := Option.isSome_iff_exists.mp new
      obtain ⟨inside, rfl⟩ := History.latest?_mem last
      exact visit.isToken_of_mem_added answered inside
    · exact remembers.token key ((session.client.mem_keys_iff key).mpr old)
  · show (session.client.receive (visit.jarHeaders session.client)).get? key =
      (History.latest? (session.history ++ visit.history session.client) key).map _
    rw [received, (visit.records_left session.client).latest?_added, remembers.get?_eq,
      History.latest?_append, Option.map_or]

/-- **Whole sessions.** After a session of answered visits the client remembers its history. -/
theorem Remembers.after {session : Session} {visits : List Visit}
    (remembers : Remembers session.history session.client)
    (answered : session.AllAnswered visits) :
    Remembers (session.after visits).history (session.after visits).client := by
  induction visits generalizing session with
  | nil => exact remembers
  | cons visit rest ih => exact ih (remembers.visit answered.1) answered.2

/-! ### What the next request reads -/

/-- The value that a coded value stands for, as a text. -/
def Client.decode (coded : String) : String :=
  String.ofList (CookieHeader.decodedValue coded.toList)

/-- **The jar made from what a client brings has the values themselves.** -/
theorem Remembers.get?_jarOf {history : History} {client : Client}
    (remembers : Remembers history client) (key : String) :
    (CookieHeader.jarOf client.cookieHeaders).get? key =
      (history.latest? key).map fun cookie => cookie.value := by
  have decode_coded : ∀ cookie : Cookie,
      Client.decode (String.ofList (codedValue cookie.value.toList)) = cookie.value := by
    intro cookie
    unfold Client.decode
    rw [String.toList_ofList, CookieHeader.decodedValue_codedValue, String.ofList_toList]
  let pairs := client.entries.map fun entry => (entry.1, Client.decode entry.2)
  have written : pairs.map CookieHeader.coded = client.entries := by
    rw [List.map_map]
    refine (List.map_congr_left fun entry member => ?_).trans (List.map_id _)
    have known := (client.get?_eq_some_iff entry.1 entry.2).mpr member
    rw [remembers.get?_eq] at known
    obtain ⟨cookie, -, coded⟩ := Option.map_eq_some_iff.mp known
    show (entry.1, String.ofList (codedValue (Client.decode entry.2).toList)) = entry
    rw [← coded, decode_coded, coded]
  have tokens : ∀ pair ∈ pairs, isToken pair.1.toList = true := by
    intro pair member
    obtain ⟨entry, inside, rfl⟩ := List.mem_map.mp member
    exact remembers.token entry.1 (List.mem_map_of_mem inside)
  have brought : client.cookieHeaders.flatMap CookieHeader.read = pairs := by
    have read := CookieHeader.read_write pairs tokens
    rw [written] at read
    unfold Client.cookieHeaders
    by_cases nothing : client.entries.isEmpty = true
    · have none : client.entries = [] := List.isEmpty_iff.mp nothing
      simp [pairs, none]
    · rw [if_neg nothing, List.flatMap_singleton]
      exact read
  calc (CookieHeader.jarOf client.cookieHeaders).get? key
      = (OrderedMap.ofList pairs).get? key := by
        unfold CookieHeader.jarOf
        rw [brought]
        rfl
    _ = (client.get? key).map Client.decode := client.get?_ofList_map Client.decode key
    _ = (history.latest? key).map fun cookie => cookie.value := by
        rw [remembers.get?_eq, Option.map_map]
        exact congrArg (fun read => (history.latest? key).map read) (funext decode_coded)

/-- The cookies of a session are the latest ones of a visit that sets it at its end. -/
theorem Visit.history_setSession (visit : Visit) (client : Client)
    {operations : List Jar.Operation} {access refresh : String}
    (last : visit.operations = operations ++ [.setSession access refresh]) :
    ∃ before, visit.history client =
      before ++ [visit.policy.authToken access, visit.policy.refreshToken refresh] := by
  unfold Visit.history History.after
  rw [last, List.foldl_append]
  exact ⟨_, rfl⟩

/-- **The next request reads the latest values.** After every session of answered visits, what the
jar of the next request has under a name is the value put last under the name in any visit, and
nothing under a name that was never put. So if the last visit has set the cookies of a sign-in,
they are read exactly. -/
theorem next_jar_reads_latest (visits : List Visit)
    (answered : Session.start.AllAnswered visits) :
    let session := Session.start.after visits
    let jar := CookieHeader.jarOf session.client.cookieHeaders
    (∀ key, jar.get? key = (session.history.latest? key).map fun cookie => cookie.value) ∧
      ∀ earlier visit operations access refresh, visits = earlier ++ [visit] →
        visit.operations = operations ++ [.setSession access refresh] →
        jar.get? Reserved.authToken.key = some access ∧
          jar.get? Reserved.refreshToken.key = some refresh := by
  intro session jar
  have reads := (remembers_start.after answered).get?_jarOf
  refine ⟨reads, ?_⟩
  rintro earlier visit operations access refresh rfl last
  obtain ⟨before, put⟩ := visit.history_setSession (Session.start.after earlier).client last
  have whole : session.history = ((Session.start.after earlier).history ++ before) ++
      [visit.policy.authToken access, visit.policy.refreshToken refresh] := by
    show ((Session.start.after (earlier ++ [visit]))).history = _
    unfold Session.after
    rw [List.foldl_append, List.append_assoc, ← put]
    rfl
  constructor
  · show jar.get? _ = _
    rw [reads, whole, History.latest?_append]
    rfl
  · show jar.get? _ = _
    rw [reads, whole, History.latest?_append]
    rfl

/-- Two visits, the second of which fails and is answered all the same: values that look quoted or
escaped come back as they are. -/
theorem quoted_values_come_back :
    let policy : Policy := ⟨false, Duration.oneSecond, Duration.oneSecond, Duration.oneSecond⟩
    let visits : List Visit :=
      [⟨policy, [.setSession "a; b" "c", .oauthState "\"\\101\""], ["own=1"], none⟩,
        ⟨policy, [.setSession "\\\"é,\n" ""], [], some (.internal "no directory")⟩]
    let session := Session.start.after visits
    let jar := CookieHeader.jarOf session.client.cookieHeaders
    Session.start.AllAnswered visits ∧ jar.get? "auth_token" = some "\\\"é,\n" ∧
      jar.get? "refresh_token" = some "" ∧ jar.get? "oauth_state" = some "\"\\101\"" ∧
      jar.get? "own" = none := by
  intro policy visits session jar
  have answered : Session.start.AllAnswered visits := by
    -- With the policy in its place the headers can be computed.
    subst policy
    exact ⟨⟨200, _, _, rfl⟩, ⟨500, _, _, rfl⟩, trivial⟩
  obtain ⟨reads, last⟩ := next_jar_reads_latest visits answered
  obtain ⟨access, refresh⟩ := last (visits.take 1) _ [] _ _ rfl rfl
  refine ⟨answered, access, refresh, ?_, ?_⟩
  · rw [reads]
    rfl
  · rw [reads]
    rfl

end SignIn

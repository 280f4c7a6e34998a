/-
**Jars and their histories.**

The history of a jar is the list of cookies put into it, in order. What an operation puts is
said here without the jar (`Operation.puts`): it depends only on which names are held. A jar is
known by what came with the request and by its history:

* `perform_follows`: an operation adds exactly the cookies it puts, and one that is refused
  changes nothing;
* `records_afterAll`: after every run the jar records the history of the run.

Nothing is said about how the added cookies are kept, so the reference is a plain list: the
last cookie under a name counts (`latest?`), and a name has the place of its first cookie
(`names`).
-/

import SignIn.Cookie.Operation
import SignIn.Proofs.OrderedMap

namespace SignIn

/-- The cookies put into a jar, in order. -/
abbrev History := List Cookie

namespace History

/-- The cookie most recently put under a name. -/
def latest? (history : History) (key : String) : Option Cookie :=
  history.findRev? fun cookie => cookie.key = key

/-- The names of a history in order of first addition. -/
def names (history : History) : List String :=
  (history.map fun cookie => cookie.key).eraseDups

/-- Whether a name is held after a history, or came with the request. -/
def holds (incoming : OrderedMap String String) (history : History) (key : String) : Bool :=
  (history.latest? key).isSome || (incoming.get? key).isSome

/-! ### Histories that grow -/

/-- The later history counts first. -/
theorem latest?_append (first second : History) (key : String) :
    latest? (first ++ second) key = (latest? second key).or (latest? first key) := by
  unfold latest?
  rw [List.findRev?_eq_find?_reverse, List.findRev?_eq_find?_reverse,
    List.findRev?_eq_find?_reverse, List.reverse_append, List.find?_append]

theorem latest?_concat (history : History) (cookie : Cookie) (key : String) :
    latest? (history ++ [cookie]) key =
      if key = cookie.key then some cookie else latest? history key := by
  rw [latest?_append]
  by_cases same : key = cookie.key
  · simp [latest?, List.findRev?, same]
  · have differ : cookie.key ≠ key := fun equal => same equal.symm
    simp [latest?, List.findRev?, same, differ]

theorem names_concat (history : History) (cookie : Cookie) :
    names (history ++ [cookie]) =
      if cookie.key ∈ names history then names history else names history ++ [cookie.key] := by
  unfold names
  rw [List.map_append, List.eraseDups_append]
  simp only [List.mem_eraseDups, List.map_cons, List.map_nil]
  by_cases old : cookie.key ∈ history.map fun cookie => cookie.key
  · rw [if_pos old, List.removeAll, List.filter_cons_of_neg (by simpa using old)]
    simp
  · rw [if_neg old, List.removeAll, List.filter_cons_of_pos (by simpa using old)]
    rfl

/-- The latest cookie under a name is one of the history and has the name. -/
theorem latest?_mem {history : History} {key : String} {cookie : Cookie}
    (found : latest? history key = some cookie) : cookie ∈ history ∧ cookie.key = key := by
  unfold latest? at found
  rw [List.findRev?_eq_find?_reverse] at found
  exact ⟨List.mem_reverse.mp (List.mem_of_find?_eq_some found),
    by simpa using List.find?_some found⟩

theorem exists_latest? {history : History} {cookie : Cookie} (member : cookie ∈ history) :
    ∃ last, latest? history cookie.key = some last := by
  unfold latest?
  rw [List.findRev?_eq_find?_reverse, ← Option.isSome_iff_exists, List.find?_isSome]
  exact ⟨cookie, List.mem_reverse.mpr member, decide_eq_true rfl⟩

end History

namespace Jar

/-! ### What an operation puts -/

/-- The cookies that an operation puts into a jar which holds given names, or why it is
refused. -/
def Operation.puts (policy : Policy) (holds : String → Bool) :
    Operation → Except Failure (List Cookie)
  | .get _ | .contains _ | .dev | .apply => .ok []
  | .add recipe => recipe.make.map fun cookie => [cookie]
  | .remove key =>
    if holds key then
      ((Cookie.Attributes.forMode true key "" Duration.oneSecond).check.mapError
        Cookie.Defect.failure).map fun cookie => [cookie]
    else .ok []
  | .removeReserved | .clear =>
    .ok ((Reserved.all.filter fun reserved => holds reserved.key).map fun reserved =>
      removal reserved.key reserved.key_ne)
  | .setSession access refresh => .ok [policy.authToken access, policy.refreshToken refresh]
  | .authToken value => .ok [policy.authToken value]
  | .refreshToken value => .ok [policy.refreshToken value]
  | .oauthState value => .ok [policy.oauthState value]
  | .build key value ttlMicros =>
    match Cookie.lifetime ttlMicros with
    | .ok ttl =>
      ((policy.build key value ttl).mapError Cookie.Defect.failure).map fun cookie => [cookie]
    | .error failure => .error failure

/-- A history after one more operation; an operation that is refused leaves it as it is. -/
def Operation.extend (policy : Policy) (incoming : OrderedMap String String) (history : History)
    (operation : Operation) : History :=
  match operation.puts policy (history.holds incoming) with
  | .ok cookies => history ++ cookies
  | .error _ => history

end Jar

/-- The history of a run, in a jar that came with given cookies. -/
def History.after (policy : Policy) (incoming : OrderedMap String String)
    (operations : List Jar.Operation) : History :=
  operations.foldl (Jar.Operation.extend policy incoming) []

namespace Jar

/-- The jar of a request before anything is done to it. -/
def fresh (incoming : OrderedMap String String) : Jar :=
  ⟨incoming, OrderedMap.empty⟩

/-- Adds cookies one after the other. -/
def addAll (jar : Jar) (cookies : List Cookie) : Jar :=
  cookies.foldl add jar

/-! ### Membership -/

/-- A jar contains a name exactly when a value is read under it. -/
theorem contains_eq (jar : Jar) (key : String) : jar.contains key = (jar.get? key).isSome := by
  unfold contains get?
  rw [OrderedMap.contains_eq, OrderedMap.contains_eq]
  cases jar.pending.get? key <;> rfl

theorem contains_add (jar : Jar) (cookie : Cookie) (key : String) :
    (jar.add cookie).contains key = (decide (key = cookie.key) || jar.contains key) := by
  rw [contains_eq, contains_eq, get?_add]
  by_cases same : key = cookie.key <;> simp [same]

theorem contains_add_of_contains {jar : Jar} {cookie : Cookie}
    (old : jar.contains cookie.key = true) : (jar.add cookie).contains = jar.contains := by
  funext key
  rw [contains_add]
  by_cases same : key = cookie.key
  · rw [same, old, Bool.or_true]
  · simp [same]

@[simp] theorem contains_removeNamed (jar : Jar) (key : String) (named : key ≠ "") :
    (jar.removeNamed key named).contains = jar.contains := by
  unfold removeNamed
  split
  · rename_i held
    exact contains_add_of_contains held
  · rfl

/-! ### What an operation does -/

/-- Removing reserved cookies in turn adds the removal of each one that was held before. -/
theorem foldl_removeNamed (jar : Jar) (reserved : List Reserved) :
    reserved.foldl (fun rest reserved => rest.removeNamed reserved.key reserved.key_ne) jar =
      jar.addAll ((reserved.filter fun reserved => jar.contains reserved.key).map fun reserved =>
        removal reserved.key reserved.key_ne) := by
  induction reserved generalizing jar with
  | nil => rfl
  | cons first rest ih =>
    rw [List.foldl_cons, ih, contains_removeNamed]
    by_cases held : jar.contains first.key = true
    · rw [List.filter_cons, if_pos held, removeNamed, if_pos held]
      rfl
    · rw [List.filter_cons, if_neg held, removeNamed, if_neg held]

/-- Removing the reserved cookies adds the removal of each one that is held. -/
theorem removeReserved_eq (jar : Jar) :
    jar.removeReserved =
      jar.addAll ((Reserved.all.filter fun reserved => jar.contains reserved.key).map
        fun reserved => removal reserved.key reserved.key_ne) :=
  foldl_removeNamed jar Reserved.all

/-- The jar and the answer that an operation has to give, from what it puts. -/
def Step.Follows (jar : Jar) (step : Step) : Except Failure (List Cookie) → Prop
  | .ok cookies => step.jar = jar.addAll cookies ∧ ∀ failure, step.answer ≠ .failed failure
  | .error failure => step.jar = jar ∧ step.answer = .failed failure

theorem follows_addMade (jar : Jar) (answer : Cookie → Answer) (made : Except Failure Cookie)
    (answered : ∀ cookie failure, answer cookie ≠ .failed failure) :
    Step.Follows jar (jar.addMade answer made) (made.map fun cookie => [cookie]) := by
  cases made with
  | ok cookie => exact ⟨rfl, answered cookie⟩
  | error failure => exact ⟨rfl, rfl⟩

/-- Removing a cookie puts its removal if the name is held; of the held empty name there is no
removal, and the jar stays as it is. -/
theorem remove_follows (policy : Policy) (jar : Jar) (key : String) :
    Step.Follows jar ((Operation.remove key).perform policy jar)
      ((Operation.remove key).puts policy jar.contains) := by
  simp only [Operation.perform, Operation.puts, remove, removeNamed]
  by_cases named : key ≠ ""
  · have checked : (Cookie.Attributes.forMode true key "" Duration.oneSecond).check =
        .ok (removal key named) := (Cookie.check_eq_ok_iff _ _).mpr rfl
    rw [dif_pos named, checked]
    by_cases held : jar.contains key = true
    · rw [if_pos held, if_pos held]
      exact ⟨rfl, fun _ failed => by cases failed⟩
    · rw [if_neg held, if_neg held]
      exact ⟨rfl, fun _ failed => by cases failed⟩
  · have unnamed : key = "" := Decidable.not_not.mp named
    subst unnamed
    rw [dif_neg named]
    by_cases held : jar.contains "" = true
    · rw [if_pos held, if_pos held]
      exact ⟨rfl, rfl⟩
    · rw [if_neg held, if_neg held]
      exact ⟨rfl, fun _ failed => by cases failed⟩

/-- **An operation adds exactly the cookies it puts, and one that is refused changes nothing.** -/
theorem perform_follows (policy : Policy) (jar : Jar) (operation : Operation) :
    Step.Follows jar (operation.perform policy jar) (operation.puts policy jar.contains) := by
  cases operation with
  | get key => exact ⟨rfl, fun _ failed => by cases failed⟩
  | contains key => exact ⟨rfl, fun _ failed => by cases failed⟩
  | dev => exact ⟨rfl, fun _ failed => by cases failed⟩
  | apply => exact ⟨rfl, fun _ failed => by cases failed⟩
  | add recipe => exact follows_addMade jar _ _ fun _ _ failed => by cases failed
  | remove key => exact remove_follows policy jar key
  | removeReserved => exact ⟨jar.removeReserved_eq, fun _ failed => by cases failed⟩
  | clear => exact ⟨jar.removeReserved_eq, fun _ failed => by cases failed⟩
  | setSession access refresh => exact ⟨rfl, fun _ failed => by cases failed⟩
  | authToken value => exact ⟨rfl, fun _ failed => by cases failed⟩
  | refreshToken value => exact ⟨rfl, fun _ failed => by cases failed⟩
  | oauthState value => exact ⟨rfl, fun _ failed => by cases failed⟩
  | build key value ttlMicros =>
    simp only [Operation.perform, Operation.puts]
    cases Cookie.lifetime ttlMicros with
    | error failure => exact ⟨rfl, rfl⟩
    | ok ttl => exact follows_addMade jar _ _ fun _ _ failed => by cases failed

/-! ### Jars that record a history -/

/-- A jar that came with given cookies and has since received a history: its added cookies are
the latest ones, in order of first addition. -/
structure Records (incoming : OrderedMap String String) (history : History) (jar : Jar) :
    Prop where
  incoming_eq : jar.incoming = incoming
  keys_eq : jar.pending.keys = history.names
  get?_eq : ∀ key, jar.pending.get? key = history.latest? key

variable {incoming : OrderedMap String String} {history : History} {jar : Jar}

theorem records_fresh (incoming : OrderedMap String String) :
    Records incoming [] (fresh incoming) :=
  ⟨rfl, rfl, fun _ => rfl⟩

theorem Records.add (records : Records incoming history jar) (cookie : Cookie) :
    Records incoming (history ++ [cookie]) (jar.add cookie) := by
  refine ⟨records.incoming_eq, ?_, ?_⟩
  · show (jar.pending.insert cookie.key cookie).keys = _
    rw [OrderedMap.keys_insert, records.keys_eq, History.names_concat]
  · intro key
    show (jar.pending.insert cookie.key cookie).get? key = _
    rw [OrderedMap.get?_insert, records.get?_eq, History.latest?_concat]

theorem Records.addAll (records : Records incoming history jar) (cookies : List Cookie) :
    Records incoming (history ++ cookies) (jar.addAll cookies) := by
  induction cookies generalizing history jar with
  | nil =>
    rw [List.append_nil]
    exact records
  | cons cookie rest ih =>
    have step := ih (records.add cookie)
    rw [List.append_assoc] at step
    exact step

/-- What is read is the latest value of the history, else what came with the request. -/
theorem Records.get?_jar (records : Records incoming history jar) (key : String) :
    jar.get? key =
      ((history.latest? key).map fun cookie => cookie.value).or (incoming.get? key) := by
  unfold get?
  rw [records.get?_eq, records.incoming_eq]
  cases history.latest? key <;> rfl

/-- The jar and its history hold the same names. -/
theorem Records.contains_jar (records : Records incoming history jar) :
    jar.contains = history.holds incoming := by
  funext key
  rw [contains_eq, records.get?_jar, Option.isSome_or, Option.isSome_map]
  rfl

/-- **One step.** The history of a jar is extended as the operation says. -/
theorem Records.perform (records : Records incoming history jar) (policy : Policy)
    (operation : Operation) :
    Records incoming (operation.extend policy incoming history)
      (operation.perform policy jar).jar := by
  have follows := perform_follows policy jar operation
  rw [records.contains_jar] at follows
  unfold Operation.extend
  cases put : operation.puts policy (history.holds incoming) with
  | ok cookies =>
    rw [put] at follows
    rw [follows.1]
    exact records.addAll cookies
  | error failure =>
    rw [put] at follows
    rw [follows.1]
    exact records

/-- **Whole runs.** After a run the jar records the history of the run. -/
theorem records_afterAll (policy : Policy) (incoming : OrderedMap String String)
    (operations : List Operation) :
    Records incoming (History.after policy incoming operations)
      (afterAll policy (fresh incoming) operations) := by
  have general : ∀ {history : History} {jar : Jar}, Records incoming history jar →
      Records incoming (operations.foldl (Operation.extend policy incoming) history)
        (afterAll policy jar operations) := by
    induction operations with
    | nil => exact fun records => records
    | cons operation rest ih => exact fun records => ih (records.perform policy operation)
  exact general (records_fresh incoming)

theorem Records.mem_of_mem_added (records : Records incoming history jar) {cookie : Cookie}
    (member : cookie ∈ jar.added) : cookie ∈ history := by
  obtain ⟨key, found⟩ := (jar.pending.mem_values_iff cookie).mp member
  rw [records.get?_eq] at found
  exact (History.latest?_mem found).1

/-- The added cookies are the latest ones of the history. -/
theorem Records.latest?_added (records : Records incoming history jar) (key : String) :
    History.latest? jar.added key = history.latest? key := by
  have forward : ∀ cookie, History.latest? jar.added key = some cookie →
      history.latest? key = some cookie := by
    intro cookie last
    obtain ⟨member, named⟩ := History.latest?_mem last
    obtain ⟨place, found⟩ := (jar.pending.mem_values_iff cookie).mp member
    rw [records.get?_eq] at found
    have same : place = key := (History.latest?_mem found).2.symm.trans named
    exact same ▸ found
  refine Option.ext fun cookie => ⟨forward cookie, fun last => ?_⟩
  have kept : jar.pending.get? key = some cookie := by rw [records.get?_eq, last]
  have member : cookie ∈ jar.added := (jar.pending.mem_values_iff cookie).mpr ⟨key, kept⟩
  obtain ⟨other, found⟩ := History.exists_latest? member
  rw [(History.latest?_mem last).2] at found
  rw [found, ← forward other found, last]

/-- What holds of every cookie that the operations of a run put, holds of its history. -/
theorem forall_mem_after {policy : Policy} {operations : List Operation} {P : Cookie → Prop}
    (put : ∀ operation ∈ operations, ∀ holds cookies,
      operation.puts policy holds = .ok cookies → ∀ cookie ∈ cookies, P cookie)
    (incoming : OrderedMap String String) :
    ∀ cookie ∈ History.after policy incoming operations, P cookie := by
  have general : ∀ history : History, (∀ cookie ∈ history, P cookie) →
      ∀ cookie ∈ operations.foldl (Operation.extend policy incoming) history, P cookie := by
    induction operations with
    | nil => exact fun _ before => before
    | cons operation rest ih =>
      intro history before
      refine ih (fun later member => put later (List.mem_cons_of_mem _ member)) _ ?_
      unfold Operation.extend
      cases puts : operation.puts policy (history.holds incoming) with
      | error _ => exact before
      | ok cookies =>
        intro cookie member
        rcases List.mem_append.mp member with old | new
        · exact before cookie old
        · exact put operation List.mem_cons_self _ cookies puts cookie new
  exact general [] fun _ member => by cases member

end Jar

end SignIn

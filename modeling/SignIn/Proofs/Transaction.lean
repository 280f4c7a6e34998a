/-
**Requests are transactions.**

What requests leave on disk is told by a replay that knows neither a session nor a provider: each
action has its effect on the table alone, unless the table refuses it (`Action.replay`).

* `Action.perform_follows`: carried out in a session, an action does what its replay does; it does
  nothing if it reports a failure, and reports one if the table refuses it;
* `Transaction.run_atomic`: a request leaves its replay on disk if it ended normally, and what was
  there before if it did not; the failure thrown into it comes out again;
* `Transaction.sessions_runAll`: after any requests, the table on disk is the replay of exactly the
  requests that ended normally;
* `Transaction.runAll_eq_of_work_eq`: nothing that is seen of requests depends on their providers.
-/

import SignIn.Transaction

namespace SignIn

namespace Action

/-! ### Replaying actions -/

/-- What an action makes of a table of sessions, if the table does not refuse it: a row that cannot
be kept, or whose token is there already, is refused. -/
def effect? (table : SessionTable) : Action → Option SessionTable
  | .call (.inquire _) => some table
  | .call (.revokeAll id) => some (table.filter fun row => !row.ofUser id)
  | .call (.revoke token) => some (table.filter fun row => !row.ofToken token)
  | .insertSession user token =>
    match SessionRow.ofValues user token with
    | .ok row => if ∃ old ∈ table, old.clashes row then none else some (table ++ [row])
    | .error _ => none
  | .fail _ => none

/-- Replays an action on a table of sessions. What the table refuses has no effect. -/
def replay (table : SessionTable) (action : Action) : SessionTable :=
  (action.effect? table).getD table

/-- Replays actions on a table of sessions, one after the other. -/
def replayAll (actions : List Action) (table : SessionTable) : SessionTable :=
  actions.foldl replay table

/-- What an action leaves of a table of sessions, which may be missing: it was replayed, it made no
difference if it reports a failure, and it does so if the table refuses it. -/
structure Follows (action : Action) (before : Option SessionTable)
    (report : Report (Call.Result User)) (after : Option SessionTable) : Prop where
  replayed : after = before.map (replay · action)
  unchanged_of_failed : ∀ failure, report.outcome = .error failure → after = before
  failed_of_refused : ∀ table, before = some table → action.effect? table = none →
    ∃ failure, report.outcome = .error failure

/-- Actions that start from a table leave one step each, with the table as it is seen then. -/
inductive FollowAll : Option SessionTable → List Action →
    List (Report (Call.Result User) × Option SessionTable) → Prop where
  | nil (table : Option SessionTable) : FollowAll table [] []
  | cons {before after : Option SessionTable} {action : Action} {rest : List Action}
      {report : Report (Call.Result User)}
      {steps : List (Report (Call.Result User) × Option SessionTable)}
      (first : action.Follows before report after) (others : FollowAll after rest steps) :
      FollowAll before (action :: rest) ((report, after) :: steps)

/-! ### One action -/

section Following

variable {action : Action} {report : Report (Call.Result User)}

/-- Where there is no table, there is nothing to follow. -/
theorem follows_none : action.Follows none report none :=
  ⟨rfl, fun _ _ => rfl, fun _ missing => nomatch missing⟩

theorem follows_of_effect {table after : SessionTable} (effect : action.effect? table = some after)
    (unfailing : ∀ failure, report.outcome = .error failure → after = table) :
    action.Follows (some table) report (some after) := by
  refine ⟨?_, fun failure failed => congrArg some (unfailing failure failed), ?_⟩
  · rw [Option.map_some, replay, effect, Option.getD_some]
  · rintro _ ⟨⟩ refused
    cases effect.symm.trans refused

theorem follows_of_refused {table : SessionTable} {failure : Failure}
    (refused : action.effect? table = none) (failed : report.outcome = .error failure) :
    action.Follows (some table) report (some table) := by
  refine ⟨?_, fun _ _ => rfl, fun _ _ _ => ⟨failure, failed⟩⟩
  rw [Option.map_some, replay, refused, Option.getD_none]

end Following

/-- Inquiries only read. -/
theorem run_inquiry_snd (inquiry : Inquiry) (database : Database) :
    ((inquiry.run (Directory.ofStorage Database.storage)).run database).2 = database := by
  cases inquiry with
  | direct question => cases question <;> rfl
  | _ => rfl

/-- A call follows its replay and leaves the users alone. -/
theorem call_follows (request : Call) (database : Database) :
    let performed := (Action.call request).perform database
    (Action.call request).Follows database.sessions performed.1 performed.2.sessions ∧
      performed.2.users = database.users := by
  intro performed
  obtain ⟨users, sessions⟩ := database
  cases request with
  | inquire inquiry =>
    have unchanged : performed.2 = ⟨users, sessions⟩ := run_inquiry_snd inquiry ⟨users, sessions⟩
    rw [unchanged]
    cases sessions with
    | none => exact ⟨follows_none, rfl⟩
    | some table => exact ⟨follows_of_effect rfl (fun _ _ => rfl), rfl⟩
  -- A revocation fails only where there is no table.
  | revokeAll _ | revoke _ =>
    cases sessions with
    | none => exact ⟨follows_none, rfl⟩
    | some table => exact ⟨follows_of_effect rfl (fun _ failed => nomatch failed), rfl⟩

section Insertion

variable {user token : Value} {database : Database}

/-- An insertion that is refused reports why, and changes nothing. -/
theorem perform_of_refused {failure : Failure}
    (refused : database.insertSession user token = .error failure) :
    Action.perform (.insertSession user token) database = (.silent (.error failure), database) := by
  simp only [Action.perform, refused]

theorem perform_of_inserted {grown : Database}
    (inserted : database.insertSession user token = .ok grown) :
    Action.perform (.insertSession user token) database = (.silent (.ok .done), grown) := by
  simp only [Action.perform, inserted]

end Insertion

/-- An insertion follows its replay: the session refuses what the table refuses. -/
theorem insertSession_follows (user token : Value) (database : Database) :
    let performed := (Action.insertSession user token).perform database
    (Action.insertSession user token).Follows database.sessions performed.1 performed.2.sessions ∧
      performed.2.users = database.users := by
  intro performed
  obtain ⟨users, _ | table⟩ := database
  · exact ⟨follows_none, rfl⟩
  cases made : SessionRow.ofValues user token with
  | error failure =>
    have refused : (Database.mk users (some table)).insertSession user token = .error failure := by
      simp only [Database.insertSession, made]
      rfl
    simp only [performed, perform_of_refused refused]
    exact ⟨follows_of_refused (by simp only [effect?, made]) rfl, trivial⟩
  | ok row =>
    by_cases taken : ∃ old ∈ table, old.clashes row
    · have clash : table.insert row = .error .integrity := if_pos taken
      have refused : (Database.mk users (some table)).insertSession user token =
          .error (.storage .integrity) := by
        simp only [Database.insertSession, made, bind, Except.bind, clash]
        rfl
      simp only [performed, perform_of_refused refused]
      exact ⟨follows_of_refused (by simp only [effect?, made, if_pos taken]) rfl, trivial⟩
    · have grows : table.insert row = .ok (table ++ [row]) := if_neg taken
      have inserted : (Database.mk users (some table)).insertSession user token =
          .ok ⟨users, some (table ++ [row])⟩ := by
        simp only [Database.insertSession, made, bind, Except.bind, grows]
        rfl
      simp only [performed, perform_of_inserted inserted]
      have effect : effect? table (.insertSession user token) = some (table ++ [row]) := by
        simp only [effect?, made, if_neg taken]
      exact ⟨follows_of_effect effect (fun _ failed => nomatch failed), trivial⟩

/-- **An action that is carried out follows its replay.** -/
theorem perform_follows (action : Action) (database : Database) :
    action.Follows database.sessions (action.perform database).1
        (action.perform database).2.sessions ∧
      (action.perform database).2.users = database.users := by
  cases action with
  | call request => exact call_follows request database
  | insertSession user token => exact insertSession_follows user token database
  | fail failure =>
    obtain ⟨users, _ | table⟩ := database
    · exact ⟨follows_none, rfl⟩
    · exact ⟨follows_of_refused rfl rfl, rfl⟩

/-! ### The actions of a request -/

theorem map_replayAll_append (earlier later : List Action) (table : Option SessionTable) :
    table.map (replayAll (earlier ++ later)) =
      (table.map (replayAll earlier)).map (replayAll later) := by
  rw [Option.map_map]
  exact congrArg (table.map ·) (funext fun _ => List.foldl_append)

/-- **The actions of a request follow their replays, from one to the next.** -/
theorem performAll_follow (actions : List Action) (database : Database) :
    FollowAll database.sessions actions (performAll actions database).1 ∧
      (performAll actions database).2.sessions = database.sessions.map (replayAll actions) ∧
      (performAll actions database).2.users = database.users := by
  induction actions generalizing database with
  | nil => exact ⟨FollowAll.nil _, Option.map_id'.symm, rfl⟩
  | cons action rest ih =>
    obtain ⟨first, usersKept⟩ := perform_follows action database
    -- The next action starts from what the session sees, not from what is on disk.
    obtain ⟨others, replayed, users⟩ := ih (action.perform database).2
    refine ⟨FollowAll.cons first others, ?_, users.trans usersKept⟩
    calc (performAll rest (action.perform database).2).2.sessions
        = (database.sessions.map (replay · action)).map (replayAll rest) := by
          rw [replayed, first.replayed]
      _ = database.sessions.map (replayAll (action :: rest)) :=
          (map_replayAll_append [action] rest database.sessions).symm

end Action

namespace Transaction

/-! ### One request -/

/-- A request is a transaction: it leaves its replay on disk if it ended normally and what was there
before if it did not, and what was thrown into it comes out as it was. -/
structure Atomic (request : Transaction) (before : Database) (record : Record) (after : Database) :
    Prop where
  steps : Action.FollowAll before.sessions request.actions record.steps
  ending_eq : record.ending = request.ending
  committed_eq : record.committed = after.sessions
  sessions_eq : after.sessions = if request.ending.isNone
    then before.sessions.map (Action.replayAll request.actions) else before.sessions
  users_eq : after.users = before.users

/-- What a request does, wherever its session comes from. -/
def work (request : Transaction) : List Action × Option Failure :=
  (request.actions, request.ending)

/-- The provider of a session changes nothing that is seen of a request. -/
theorem run_eq (request : Transaction) (database : Database) :
    request.run database =
      let performed := Action.performAll request.actions database
      let kept := if request.ending.isNone then performed.2 else database
      (⟨performed.1, request.ending, kept.sessions⟩, kept) := by
  have finished := request.provider.finish_eq
    ⟨database, (Action.performAll request.actions database).2⟩ request.ending
  exact congrArg (fun finish : Option Failure × Database =>
    ((⟨(Action.performAll request.actions database).1, finish.1, finish.2.sessions⟩, finish.2) :
      Record × Database)) finished

theorem run_eq_of_work_eq {first second : Transaction} (same : first.work = second.work)
    (database : Database) : first.run database = second.run database := by
  obtain ⟨actions, ending⟩ := Prod.mk.inj same
  rw [run_eq, run_eq, actions, ending]

/-- **Every request is a transaction.** -/
theorem run_atomic (request : Transaction) (database : Database) :
    request.Atomic database (request.run database).1 (request.run database).2 := by
  obtain ⟨steps, sessions, users⟩ := Action.performAll_follow request.actions database
  rw [run_eq]
  refine ⟨steps, rfl, rfl, ?_, ?_⟩
  · show (if request.ending.isNone then _ else _ : Database).sessions = _
    split
    · exact sessions
    · rfl
  · show (if request.ending.isNone then _ else _ : Database).users = _
    split
    · exact users
    · rfl

/-! ### Any number of requests -/

/-- The actions of the requests that ended normally, in order. -/
def committedActions (history : List Transaction) : List Action :=
  (history.filter fun request => request.ending.isNone).flatMap Transaction.actions

theorem runAll_cons (request : Transaction) (rest : List Transaction) (database : Database) :
    runAll (request :: rest) database =
      ((request.run database).1 :: (runAll rest (request.run database).2).1,
        (runAll rest (request.run database).2).2) :=
  rfl

theorem runAll_append (earlier later : List Transaction) (database : Database) :
    runAll (earlier ++ later) database =
      ((runAll earlier database).1 ++ (runAll later (runAll earlier database).2).1,
        (runAll later (runAll earlier database).2).2) := by
  induction earlier generalizing database with
  | nil => rfl
  | cons request rest ih =>
    rw [List.cons_append, runAll_cons, ih, runAll_cons]
    rfl

theorem length_runAll (history : List Transaction) (database : Database) :
    (runAll history database).1.length = history.length := by
  induction history generalizing database with
  | nil => rfl
  | cons request rest ih => exact congrArg Nat.succ (ih _)

/-- **The table on disk is the replay of exactly the requests that ended normally.** -/
theorem sessions_runAll (history : List Transaction) (database : Database) :
    (runAll history database).2.sessions =
      database.sessions.map (Action.replayAll (committedActions history)) := by
  induction history generalizing database with
  | nil => exact Option.map_id'.symm
  | cons request rest ih =>
    have here := (request.run_atomic database).sessions_eq
    rw [runAll_cons, ih, here]
    cases ending : request.ending with
    | none =>
      have actions : committedActions (request :: rest) =
          request.actions ++ committedActions rest := by
        simp [committedActions, ending]
      rw [actions]
      exact (Action.map_replayAll_append _ _ _).symm
    | some failure =>
      have actions : committedActions (request :: rest) = committedActions rest := by
        simp [committedActions, ending]
      rw [actions]
      rfl

theorem users_runAll (history : List Transaction) (database : Database) :
    (runAll history database).2.users = database.users := by
  induction history generalizing database with
  | nil => rfl
  | cons request rest ih =>
    rw [runAll_cons]
    exact (ih _).trans (request.run_atomic database).users_eq

/-- **Nothing that is seen of requests depends on their providers.** -/
theorem runAll_eq_of_work_eq {history other : List Transaction}
    (same : other.map work = history.map work) (database : Database) :
    runAll other database = runAll history database := by
  induction history generalizing other database with
  | nil =>
    rw [List.map_nil, List.map_eq_nil_iff] at same
    rw [same]
  | cons request rest ih =>
    obtain ⟨first, others, rfl, firstSame, othersSame⟩ := List.map_eq_cons_iff.mp same
    rw [runAll_cons, runAll_cons, run_eq_of_work_eq firstSame, ih othersSame]

/-- **Requests are transactions**, whatever their history: each finds on disk what the replay of the
requests before it that ended normally has left, and leaves its own replay or nothing. -/
theorem requests_are_transactions (database : Database) (history : List Transaction) :
    (runAll history database).1.length = history.length ∧
    (∀ earlier request later, history = earlier ++ request :: later →
      ∃ record, (runAll history database).1[earlier.length]? = some record ∧
        request.Atomic (runAll earlier database).2 record
          (runAll (earlier ++ [request]) database).2) ∧
    (runAll history database).2.sessions =
      database.sessions.map (Action.replayAll (committedActions history)) ∧
    ∀ other : List Transaction, other.map work = history.map work →
      runAll other database = runAll history database := by
  refine ⟨length_runAll history database, ?_, sessions_runAll history database,
    fun other same => runAll_eq_of_work_eq same database⟩
  rintro earlier request later rfl
  refine ⟨(request.run (runAll earlier database).2).1, ?_, ?_⟩
  · have before := length_runAll earlier database
    rw [runAll_append, runAll_cons, List.getElem?_append_right (Nat.le_of_eq before), before,
      Nat.sub_self]
    rfl
  · rw [runAll_append]
    exact request.run_atomic (runAll earlier database).2

/-- Of four requests, a cancelled and a failed one leave no trace, nor does an insertion that was
refused. -/
theorem failed_requests_leave_no_trace :
    let session (user token : String) : SessionRow := ⟨.text user, .text token⟩
    let insert (user token : String) : Action := .insertSession (.text user) (.text token)
    let first : Transaction := ⟨.direct, [insert "u" "a", insert "v" "a"], none⟩
    let cancelled : Transaction := ⟨.wrapped, [insert "u" "b"], some (.cancelled "")⟩
    let failed : Transaction :=
      ⟨.direct, [.call (.revoke "a")], some (.general .runtime "boom")⟩
    let last : Transaction := ⟨.wrapped, [insert "u" "c"], none⟩
    let history := [first, cancelled, failed, last]
    let database : Database := ⟨none, some []⟩
    (runAll history database).2.sessions = some [session "u" "a", session "u" "c"] ∧
      ∃ record, (runAll history database).1[1]? = some record ∧
        record.ending = some (.cancelled "") ∧ record.committed = some [session "u" "a"] := by
  intro session insert first cancelled failed last history database
  obtain ⟨-, each, onDisk, -⟩ := requests_are_transactions database history
  obtain ⟨record, found, atomic⟩ := each [first] cancelled [failed, last] rfl
  exact ⟨onDisk, record, found, atomic.ending_eq, atomic.committed_eq⟩

end Transaction

end SignIn

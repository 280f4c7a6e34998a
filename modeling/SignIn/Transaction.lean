/-
**Requests as transactions.**

A request works on the database in one session: its actions see what they have changed, and an
action that fails changes nothing and does not end the request. What the session sees reaches the
disk when its provider commits it. A provider learns how the request ended:

* `Provider.finish_eq`: whoever provided the session, it is committed if the request ended normally
  and lost if a failure was thrown into it, and the failure comes out again.
-/

import SignIn.Call
import SignIn.Database

namespace SignIn

/-- What a request does with its session. -/
inductive Action where
  | call (call : Call)
  /-- The request's own insertion of a session. -/
  | insertSession (user token : Value)
  /-- A failure of the request's own, which it handles itself. -/
  | fail (failure : Failure)

/-- Does one thing in a transaction. -/
def Action.perform : Action → Database → Report (Call.Result User) × Database
  | .call request, database => (request.run Database.storage).run database
  | .insertSession user token, database =>
    match database.insertSession user token with
    | .ok grown => (.silent (.ok .done), grown)
    | .error failure => (.silent (.error failure), database)
  | .fail failure, database => (.silent (.error failure), database)

/-- Does things in a transaction one after the other. With each report goes the session table as
it is seen then. -/
def Action.performAll : List Action → Database →
    List (Report (Call.Result User) × Option SessionTable) × Database
  | [], database => ([], database)
  | action :: rest, database =>
    let (report, changed) := action.perform database
    let (steps, final) := performAll rest changed
    ((report, changed.sessions) :: steps, final)

/-- A session of work on the database: what is on disk, and what the session sees. -/
structure Database.Session where
  disk : Database
  seen : Database

namespace Database.Session

/-- A new session sees what is on disk. -/
def ofDisk (disk : Database) : Session :=
  ⟨disk, disk⟩

/-- Puts on disk what the session sees. -/
def commit (session : Session) : Session :=
  { session with disk := session.seen }

/-- Goes back to what is on disk. -/
def rollBack (session : Session) : Session :=
  { session with seen := session.disk }

/-- Ends the session. What has not been committed is lost. -/
def close (session : Session) : Database :=
  session.disk

end Database.Session

/-- Where a request gets its session from. -/
inductive Provider where
  /-- From the place that opens sessions. -/
  | direct
  /-- From a provider around that place, which does not pass on what is thrown into it. -/
  | wrapped
deriving DecidableEq

namespace Provider

/-- What the place that opens sessions learns of the request that works in its session. -/
inductive Signal where
  /-- The request has ended normally. -/
  | ended
  /-- A failure was thrown into the request. -/
  | thrown (failure : Failure)
  /-- Nobody waits for the session any more. -/
  | abandoned

/-- What the place that opens sessions does with a session in the end: what comes out of it, and the
database on disk. Only an ordinary failure makes it go back first; the session is closed whatever
comes. -/
def settle (session : Database.Session) : Signal → Option Failure × Database
  | .ended => (none, session.commit.close)
  | .thrown failure =>
    (some failure, if failure.isOrdinary then session.rollBack.close else session.close)
  | .abandoned => (none, session.close)

/-- What a provider does with its session when the request ends, normally or with a failure that is
thrown into it. -/
def finish (session : Database.Session) : Provider → Option Failure → Option Failure × Database
  | _, none => settle session .ended
  | direct, some failure => settle session (.thrown failure)
  -- The failure ends the outer provider at once, and the inner one is left waiting.
  | wrapped, some failure => (some failure, (settle session .abandoned).2)

/-- **A provider commits if and only if the request ended normally**, and a failure that was thrown
into the request comes out as it is. -/
theorem finish_eq (provider : Provider) (session : Database.Session) (ending : Option Failure) :
    provider.finish session ending =
      (ending, if ending.isNone then session.seen else session.disk) := by
  cases ending with
  | none => cases provider <;> rfl
  | some failure =>
    cases provider with
    | direct => exact congrArg (Prod.mk (some failure)) (ite_self session.disk)
    | wrapped => rfl

end Provider

/-- One request to the service. -/
structure Transaction where
  provider : Provider
  actions : List Action
  /-- The failure thrown into the request, if it does not end normally. -/
  ending : Option Failure

/-- What is seen of a request. -/
structure Transaction.Record where
  steps : List (Report (Call.Result User) × Option SessionTable)
  /-- The failure that comes out in the end, if one does. -/
  ending : Option Failure
  committed : Option SessionTable

/-- Carries out a request. -/
def Transaction.run (request : Transaction) (database : Database) :
    Transaction.Record × Database :=
  let session := Database.Session.ofDisk database
  let (steps, seen) := Action.performAll request.actions session.seen
  let (raised, kept) := request.provider.finish { session with seen } request.ending
  (⟨steps, raised, kept.sessions⟩, kept)

/-- Carries out requests one after the other. -/
def Transaction.runAll : List Transaction → Database → List Transaction.Record × Database
  | [], database => ([], database)
  | request :: rest, database =>
    let (record, kept) := request.run database
    let (records, final) := runAll rest kept
    (record :: records, final)

end SignIn

/-
**Revoking sessions.**

A session is revoked by deleting its row, by user or by refresh token. The number of rows deleted
is returned and logged; the token is not logged.
-/

import SignIn.Log
import SignIn.Storage

namespace SignIn.Revocation

variable {m : Type → Type} [Functor m]

/-- The report on a change of the session table. -/
def reportCount (entry : Int → Log.Entry) : Except Failure Int → Report Int
  | .ok count => ⟨.ok count, [entry count]⟩
  | .error failure => .silent (.error failure)

/-- The log entry of the sessions revoked for a user. -/
def userEntry (id : Uuid) (count : Int) : Log.Entry :=
  ⟨.info, "Sessions revoked for user", [("user_id", .text id.text), ("rowcount", .int count)]⟩

/-- The log entry of a session revoked by its token. -/
def tokenEntry (count : Int) : Log.Entry :=
  ⟨.debug, "Session revoked", [("rowcount", .int count)]⟩

/-- Revokes all sessions of a user. -/
def allOfUser (storage : Storage m) (id : Uuid) : m (Report Int) :=
  reportCount (userEntry id) <$> storage.affected (.revokeByUser id)

/-- Revokes the session with a refresh token. -/
def ofToken (storage : Storage m) (token : String) : m (Report Int) :=
  reportCount tokenEntry <$> storage.affected (.revokeByToken token)

end SignIn.Revocation

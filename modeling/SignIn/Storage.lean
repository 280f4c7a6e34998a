/-
**Storage as its clients see it.**

Clients send statements and get replies. A storage is a value that answers every statement in
some monad, so that one client runs over a database, over a script of replies, or over anything
else that answers.
-/

import SignIn.User.Row

namespace SignIn

/-- What is asked of the database. -/
inductive Statement where
  | userByEmail (email : String)
  | userById (id : Uuid)
  | adminById (id : Uuid)
  | emailTaken (email : String)
  | revokeByUser (id : Uuid)
  | revokeByToken (token : String)
deriving DecidableEq

namespace Statement

/-- The text of a statement. -/
def text : Statement → String
  | userByEmail _ => "SELECT * FROM \"_user\" WHERE email = :email"
  | userById _ => "SELECT * FROM \"_user\" WHERE id = :id"
  | adminById _ => "SELECT admin FROM \"_user\" WHERE id = :id"
  | emailTaken _ => "SELECT EXISTS(SELECT 1 FROM \"_user\" WHERE email = :email)"
  | revokeByUser _ => "DELETE FROM \"_session\" WHERE \"user\" = :user"
  | revokeByToken _ => "DELETE FROM \"_session\" WHERE refresh_token = :refresh_token"

/-- The name and the value of a statement's parameter; identifiers are sent as bytes. -/
def parameter : Statement → String × Value
  | userByEmail email => ("email", .text email)
  | userById id => ("id", .bytes .string id.bytes)
  | adminById id => ("id", .bytes .string id.bytes)
  | emailTaken email => ("email", .text email)
  | revokeByUser id => ("user", .bytes .string id.bytes)
  | revokeByToken token => ("refresh_token", .text token)

end Statement

/-- What becomes of a query. -/
inductive Reply (α : Type) where
  /-- The statement is not carried out. -/
  | refused (failure : Failure)
  /-- The statement is carried out, but its result cannot be read. -/
  | broken (failure : Failure)
  | answer (value : α)

/-- Something that carries out statements. -/
structure Storage (m : Type → Type) where
  /-- The first row found, with the names of its columns. -/
  firstRow : Statement → m (Reply (Option Row))
  /-- The values of the first row found. -/
  firstValues : Statement → m (Reply (Option (List Value)))
  /-- The first value of the first row found. -/
  scalar : Statement → m (Reply Value)
  /-- How many rows a change affects. -/
  affected : Statement → m (Except Failure Int)

/-- The replies of a storage that does what it is told beforehand. -/
structure Storage.Script where
  firstRow : Statement → Reply (Option Row)
  firstValues : Statement → Reply (Option (List Value))
  scalar : Statement → Reply Value
  affected : Statement → Except Failure Int

/-- The storage that follows a script and keeps a journal of the statements it was sent. -/
def Storage.scripted (script : Script) : Storage (StateM (List Statement)) where
  firstRow statement journal := (script.firstRow statement, journal ++ [statement])
  firstValues statement journal := (script.firstValues statement, journal ++ [statement])
  scalar statement journal := (script.scalar statement, journal ++ [statement])
  affected statement journal := (script.affected statement, journal ++ [statement])

end SignIn

/-
**The directory of users.**

Four questions are asked about users. The directory over a storage asks each by one statement.
Looking up a user, it hides the failures of the database behind its own, as long as the statement
has not been carried out; what goes wrong while the result is read, and every failure of the two
other questions, is passed on as it is.
-/

import SignIn.Storage

namespace SignIn

/-- Something that answers questions about users, which it gives as values of the type `α`. The
two flags may come as values of any type, and null stands for no answer. -/
structure Directory (m : Type → Type) (α : Type) where
  findByEmail : String → m (Except Failure (Option α))
  findById : Uuid → m (Except Failure (Option α))
  adminFlag : Uuid → m (Except Failure Value)
  emailTaken : String → m (Except Failure Value)

namespace Directory

/-- The user in a reply; `message` is reported when the database did not carry out the statement. -/
def readUser (message : String) : Reply (Option Row) → Except Failure (Option User)
  | .refused (.storage _) => .error (.gateway (.unavailable message))
  | .refused failure => .error failure
  | .broken failure => .error failure
  | .answer none => .ok none
  | .answer (some row) => (User.ofRow row).map some

/-- The flag in a reply, null if there is no row. -/
def readFlag : Reply (Option (List Value)) → Except Failure Value
  | .refused failure => .error failure
  | .broken failure => .error failure
  | .answer none => .ok .null
  | .answer (some []) => .error (.general .indexOutOfRange "tuple index out of range")
  | .answer (some (value :: _)) =>
    (User.decodeColumn User.decodeFlag User.Field.admin.column value).map .bool

/-- The truth of the value in a reply. -/
def readTruth : Reply Value → Except Failure Value
  | .refused failure => .error failure
  | .broken failure => .error failure
  | .answer value => .ok (.bool value.truthy)

/-- The directory over a storage. -/
def ofStorage {m : Type → Type} [Functor m] (storage : Storage m) : Directory m User where
  findByEmail email :=
    readUser "User query by email failed" <$> storage.firstRow (.userByEmail email)
  findById id := readUser "User query by id failed" <$> storage.firstRow (.userById id)
  adminFlag id := readFlag <$> storage.firstValues (.adminById id)
  emailTaken email := readTruth <$> storage.scalar (.emailTaken email)

/-- The questions that are asked of a directory. -/
inductive Question where
  | findByEmail (email : String)
  | findById (id : Uuid)
  | adminFlag (id : Uuid)
  | emailTaken (email : String)
deriving DecidableEq

/-- The answers of a directory that says what it is told beforehand. -/
structure Script (α : Type) where
  findByEmail : String → Except Failure (Option α)
  findById : Uuid → Except Failure (Option α)
  adminFlag : Uuid → Except Failure Value
  emailTaken : String → Except Failure Value

/-- The directory that follows a script and keeps a journal of the questions it was asked. -/
def scripted {α : Type} (script : Script α) : Directory (StateM (List Question)) α where
  findByEmail email journal := (script.findByEmail email, journal ++ [.findByEmail email])
  findById id journal := (script.findById id, journal ++ [.findById id])
  adminFlag id journal := (script.adminFlag id, journal ++ [.adminFlag id])
  emailTaken email journal := (script.emailTaken email, journal ++ [.emailTaken email])

end Directory

end SignIn

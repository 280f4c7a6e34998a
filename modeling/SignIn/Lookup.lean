/-
**Looking up principals.**

Who a request acts for is looked up in the directory. Whatever keeps a user from being found is
reported to the caller as one and the same failure; the reason goes to the log and into a field
that is not shown. The check for administrators denies whenever it cannot tell.
-/

import SignIn.Directory
import SignIn.Log

namespace SignIn.Lookup

variable {m : Type → Type} [Functor m] {α : Type}

/-- The report on a user looked up by address. -/
def reportByEmail (email : String) : Except Failure (Option α) → Report α
  | .ok (some found) => .silent (.ok found)
  | .ok none =>
    ⟨.error (.unauthorized "user not found by email" none),
      [⟨.info, "User not found by email", [("email", .text (maskEmail email))]⟩]⟩
  | .error (.gateway fault) =>
    ⟨.error (.unauthorized
        (if fault.isMapping then "invalid user" else "user not found by email") (some fault)),
      [⟨.info, "User lookup failed",
        [("email", .text (maskEmail email)), ("error", .text fault.message)]⟩]⟩
  | .error failure => .silent (.error failure)

/-- The report on a user looked up by identifier. -/
def reportById (id : Uuid) : Except Failure (Option α) → Report α
  | .ok (some found) => .silent (.ok found)
  | .ok none =>
    ⟨.error (.unauthorized "User not found by id" none),
      [⟨.info, "User not found by id", [("user_id", .text id.text)]⟩]⟩
  | .error (.gateway fault) =>
    ⟨.error (.unauthorized
        (if fault.isMapping then "Invalid user" else "User not found by id") (some fault)),
      [⟨.info, "User lookup failed",
        [("user_id", .text id.text), ("error", .text fault.message)]⟩]⟩
  | .error failure => .silent (.error failure)

/-- The report on whether a user is an administrator: only the truth value *true* itself says so,
and every failure that may be handled denies. -/
def reportAdmin (id : Uuid) : Except Failure Value → Report Bool
  | .ok .null =>
    ⟨.ok false, [⟨.info, "Admin check for unknown user", [("user_id", .text id.text)]⟩]⟩
  | .ok value => .silent (.ok value.isTrue)
  | .error failure =>
    if failure.isOrdinary then
      ⟨.ok false, [⟨.warning, "Admin check failed, denying",
        [("user_id", .text id.text), ("error", .text failure.name)]⟩]⟩
    else .silent (.error failure)

/-- Whom the check for administrators is about. -/
inductive Subject where
  | id (value : Uuid)
  | user (value : User)

/-- The identifier of a subject. -/
def Subject.uuid : Subject → Uuid
  | .id value => value
  | .user value => value.id

/-- The user with an address. -/
def byEmail (directory : Directory m α) (email : String) : m (Report α) :=
  reportByEmail email <$> directory.findByEmail email

/-- The user with an identifier. -/
def byId (directory : Directory m α) (id : Uuid) : m (Report α) :=
  reportById id <$> directory.findById id

/-- Whether a subject is an administrator. What a user value itself says about that is not
trusted. -/
def isAdmin (directory : Directory m α) (subject : Subject) : m (Report Bool) :=
  reportAdmin subject.uuid <$> directory.adminFlag subject.uuid

/-- Whether an address is taken, as the directory says. -/
def userExists (directory : Directory m α) (email : String) : m (Report Value) :=
  Report.silent <$> directory.emailTaken email

end SignIn.Lookup

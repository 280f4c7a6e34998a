/-
**Users.**

A user is who a request acts for. Where a user is shown, the address is masked: of the part
before the first `@` only two characters are left.
-/

import SignIn.Value

namespace SignIn

/-- Masks an email address: at most two characters of the part before the first `@`, three stars,
and everything behind that `@`. -/
def maskEmail (email : String) : String :=
  let isAt (c : Char) := c == '@'
  let start := email.toList.takeWhile (!isAt ·)
  let domain := (email.toList.dropWhile (!isAt ·)).drop 1
  String.ofList (start.take 2 ++ "***@".toList ++ domain)

/-- A user, as far as signing in goes. -/
structure User where
  id : Uuid
  email : String
  admin : Bool
  verified : Bool
deriving DecidableEq

/-- How a user is shown in a message. -/
def User.shown (user : User) : String :=
  "User(id=" ++ user.id.text ++ ", email=" ++ maskEmail user.email ++ ", admin=" ++
    Value.shownBool user.admin ++ ")"

end SignIn

/-
**Users from rows.**

A row of the user table names a value for each column. It is a user if its four columns decode:
an identifier is kept as an identifier or as sixteen bytes, a flag as a truth value or as 0 or 1.
The first column that is missing or does not decode makes the row no user. What is said of it shows
the value that stands where a flag should be; if the value cannot be shown, the row fails with that
instead.
-/

import SignIn.Failure
import SignIn.User

namespace SignIn

/-- A row of a table: the values of its columns. -/
abbrev Row := List (String × Value)

namespace User

/-- Why a column does not decode. -/
inductive Defect where
  | missing
  | wrongLength (length : Nat)
  | unexpectedType (typeName : String)
  | noText
  | noFlag (shown : String)
  /-- The value is no flag, and it cannot be shown. -/
  | unshown
deriving DecidableEq

/-- The text of a defect. -/
def Defect.reason : Defect → String
  | missing => "missing column"
  | wrongLength length => "expected 16 bytes, got " ++ toString length
  | unexpectedType typeName => "unexpected type " ++ typeName
  | noText => "expected non-empty text"
  | noFlag shown => "expected boolean, got " ++ shown
  | unshown => Value.tooManyDigits

/-- The identifier that a value stands for. -/
def decodeId : Value → Except Defect Uuid
  | .uuid id => .ok id
  | .bytes _ content =>
    match Uuid.ofBytes? content with
    | some id => .ok id
    | none => .error (.wrongLength content.length)
  | other => .error (.unexpectedType other.typeName)

/-- The text that a value stands for. -/
def decodeText : Value → Except Defect String
  | .text content => if content = "" then .error .noText else .ok content
  | _ => .error .noText

/-- What is wrong with a value that is no flag. -/
def flagDefect (value : Value) : Defect :=
  match value.shown? with
  | some shown => .noFlag shown
  | none => .unshown

/-- The flag that a value stands for. -/
def decodeFlag : Value → Except Defect Bool
  | .bool value => .ok value
  | .int 0 => .ok false
  | .int 1 => .ok true
  | other => .error (flagDefect other)

/-- The parts of a user. -/
inductive Field where
  | id
  | email
  | admin
  | verified
deriving DecidableEq

namespace Field

/-- The parts in the order in which they are decoded. -/
def all : List Field := [id, email, admin, verified]

/-- The name of a part. -/
def name : Field → String
  | id => "id"
  | email => "email"
  | admin => "admin"
  | verified => "verified"

/-- The column that holds a part. -/
def column : Field → String
  | id => "id"
  | email => "email"
  | admin => "admin"
  | verified => "verified"

end Field

/-- What a column that does not decode fails with: a failure of the directory, unless its value could
not be shown. -/
def undecodable (column : String) : Defect → Failure
  | .unshown => .general .wrongValue Defect.unshown.reason
  | defect => .gateway (.undecodable column defect.reason)

/-- Decodes the value of a named column. -/
def decodeColumn {α : Type} (decode : Value → Except Defect α) (column : String) (value : Value) :
    Except Failure α :=
  (decode value).mapError (undecodable column)

/-- Decodes a part of a row. -/
def decodeField {α : Type} (decode : Value → Except Defect α) (row : Row) (field : Field) :
    Except Failure α :=
  match row.lookup field.column with
  | some value => decodeColumn decode field.column value
  | none => .error (undecodable field.column .missing)

/-- The user that a row stands for. -/
def ofRow (row : Row) : Except Failure User := do
  let id ← decodeField decodeId row .id
  let email ← decodeField decodeText row .email
  let admin ← decodeField decodeFlag row .admin
  let verified ← decodeField decodeFlag row .verified
  return ⟨id, email, admin, verified⟩

end User

end SignIn

/-
**Faults of the setup.**

What keeps the service from being set up: settings that cannot be read, or settings that were
read and cannot be used.
-/

import SignIn.Settings
import SignIn.Text.Quoted

namespace SignIn

/-- A failure of the database library's own. -/
structure LibraryFailure where
  name : String
  message : String
deriving DecidableEq

/-- What keeps the service from being set up. -/
inductive SetupFault where
  | invalidSettings (issues : List Settings.Issue)
  /-- A lifetime is longer than any duration. -/
  | lifetimeOutOfRange
  /-- No database is named. -/
  | missingDatabase
  /-- The database library makes no engine. -/
  | engineRefused (failure : LibraryFailure)
  /-- No level has the name given for the log. -/
  | unknownLevel (name : String)
deriving DecidableEq

namespace SetupFault

/-- The name of a fault. -/
def name : SetupFault → String
  | invalidSettings _ => "ValidationError"
  | lifetimeOutOfRange => "OverflowError"
  | missingDatabase => "ValueError"
  | engineRefused failure => failure.name
  | unknownLevel _ => "ValueError"

/-- The text of a fault, where it has one. -/
def message? : SetupFault → Option String
  | invalidSettings _ => none
  | lifetimeOutOfRange => none
  | missingDatabase => some "AUTH_DATABASE_URL environment variable is required"
  | engineRefused failure => some failure.message
  | unknownLevel name => some ("Unknown level: " ++ Text.quoted name)

/-- The issues behind a fault. -/
def issues : SetupFault → List Settings.Issue
  | invalidSettings all => all
  | _ => []

end SetupFault

/-- The settings that were read, or the fault that they are invalid. -/
def Settings.Reading.outcome {α : Type} : Settings.Reading α → Except SetupFault α
  | complete result => .ok result
  | flawed issues => .error (.invalidSettings issues)

end SignIn

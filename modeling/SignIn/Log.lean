/-
**Log entries.**

An entry has a level, a message and named fields. A computation that logs gives a report: how it
ended, and the entries it wrote on the way.
-/

import SignIn.Failure
import SignIn.Value

namespace SignIn

namespace Log

/-- How serious an entry is. The lowest level stands for "no level set". -/
inductive Level where
  | notSet
  | debug
  | info
  | warning
  | error
  | critical
deriving DecidableEq

namespace Level

/-- The rank by which levels are compared. -/
def rank : Level → Nat
  | notSet => 0
  | debug => 10
  | info => 20
  | warning => 30
  | error => 40
  | critical => 50

/-- The name of a level. -/
def name : Level → String
  | notSet => "NOTSET"
  | debug => "DEBUG"
  | info => "INFO"
  | warning => "WARNING"
  | error => "ERROR"
  | critical => "CRITICAL"

/-- The level that a name stands for; two levels have a second name. -/
def ofName? : String → Option Level
  | "NOTSET" => some notSet
  | "DEBUG" => some debug
  | "INFO" => some info
  | "WARN" | "WARNING" => some warning
  | "ERROR" => some error
  | "FATAL" | "CRITICAL" => some critical
  | _ => none

end Level

/-- Named fields, in order. -/
abbrev Fields := List (String × Value)

/-- One entry of the log. -/
structure Entry where
  level : Level
  message : String
  fields : Fields

end Log

/-- How a computation ended, and what it logged. -/
structure Report (α : Type) where
  outcome : Except Failure α
  entries : List Log.Entry

/-- A report without log entries. -/
def Report.silent {α : Type} (outcome : Except Failure α) : Report α :=
  ⟨outcome, []⟩

end SignIn

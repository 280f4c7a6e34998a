/-
**The log of a process.**

Entries are sent through named loggers. The names form a hierarchy, divided by points, and the
nearest logger above with a level of its own decides whether an entry is taken; every entry taken
becomes a record, which goes to the handlers of the root. The loggers of the database library have
levels of their own. Setting the log up is done one step after the other: the root gets a level and
exactly one handler, and the factory that makes the records is replaced by one that stamps whatever
the former makes with the name and the environment of the service:

* `setup_of_error`, `setup_of_unknown`: a setup that fails changes nothing but the configuration;
* `setup_of_known`: one that has settings and a level takes all of its steps.
-/

import SignIn.Log.Line
import SignIn.Setup.Configuration

namespace SignIn.Log

/-- Whether a logger stands at or below another in the hierarchy. -/
def isBelow (above logger : String) : Bool :=
  logger == above || Text.startsWith logger (above ++ ".")

/-- The loggers of the database library whose level is set up. -/
inductive Branch where
  | engine
  | pool
deriving DecidableEq

namespace Branch

/-- The loggers whose level is set up. -/
def all : List Branch := [engine, pool]

/-- The logger of the whole database library, above the others. -/
def trunk : String := "sqlalchemy"

/-- The level of the whole database library, which never changes. -/
def trunkLevel : Level := .warning

/-- The name of a logger. -/
def logger : Branch → String
  | engine => "sqlalchemy.engine"
  | pool => "sqlalchemy.pool"

end Branch

/-- The name of a logger as it is written: the root has no name of its own. -/
def shownLogger (logger : String) : String :=
  if logger = "" then "root" else logger

/-- What makes the record of an entry, from its level, the name of its logger and its message. -/
abbrev RecordFactory := Level → String → String → Record

/-- The factory whose records bear no stamp. -/
def plainRecord : RecordFactory :=
  fun level logger message => ⟨level, logger, message, none, []⟩

/-- The factory that stamps the records of another with a service. Whatever they hold in its place is
overwritten. -/
def RecordFactory.stamping (service : Service) (former : RecordFactory) : RecordFactory :=
  fun level logger message =>
    let made := former level logger message
    { made with
      service := some service
      fields := made.fields.filter fun field => field.1 != Service.fieldName }

/-- The log of a process. -/
structure Facility where
  configuration : Configuration
  rootLevel : Level
  handlers : List Handler
  factory : RecordFactory
  engineLevel : Level
  poolLevel : Level

namespace Facility

/-- The log of a process that was just started. -/
def start : Facility := ⟨.start, .warning, [], plainRecord, .notSet, .notSet⟩

/-- The level of a logger below the root. -/
def branchLevel (facility : Facility) : Branch → Level
  | .engine => facility.engineLevel
  | .pool => facility.poolLevel

/-- The level that decides for a logger where no branch of the database library does. -/
def outerLevel (facility : Facility) (logger : String) : Level :=
  if isBelow Branch.trunk logger then Branch.trunkLevel else facility.rootLevel

/-- The level that decides for a logger: its own or the nearest above it that is set. -/
def levelOf (facility : Facility) (logger : String) : Level :=
  let above := Branch.all.filter fun branch => isBelow branch.logger logger
  ((above.map facility.branchLevel).find? (· ≠ .notSet)).getD (facility.outerLevel logger)

/-- Whether a logger takes entries of a level. Entries without a level are never taken. -/
def takes (facility : Facility) (logger : String) (level : Level) : Bool :=
  level != .notSet && (facility.levelOf logger).rank ≤ level.rank

/-- The names that every record uses itself. -/
def recordKeys : List String :=
  ["message", "asctime", "name", "msg", "args", "levelname", "levelno", "pathname", "filename",
    "module", "exc_info", "exc_text", "stack_info", "lineno", "funcName", "created", "msecs",
    "relativeCreated", "thread", "threadName", "processName", "process"]

/-- Whether a field would overwrite a part of a record. -/
def reserves (record : Record) (key : String) : Bool :=
  recordKeys.contains key || (key == Service.fieldName && record.service.isSome) ||
    (record.fields.lookup key).isSome

/-- A field of an entry has the name of a part of its record. -/
structure Clash where
  key : String
deriving DecidableEq

/-- The text of a clash, shown in quotes. -/
def Clash.message (clash : Clash) : String :=
  Text.quoted ("Attempt to overwrite " ++ Text.quoted clash.key ++ " in LogRecord")

/-- The record that is made of an entry before the fields of the entry are added to it. -/
def madeFor (facility : Facility) (logger : String) (entry : Entry) : Record :=
  facility.factory entry.level (shownLogger logger) entry.message

/-- The record of an entry that is sent through a logger. -/
def recordOf (facility : Facility) (logger : String) (entry : Entry) : Record :=
  let made := facility.madeFor logger entry
  { made with fields := made.fields ++ entry.fields }

/-- Sends an entry through a logger: the lines that are written. -/
def emit (facility : Facility) (logger : String) (entry : Entry) : Except Clash (List Line) :=
  if facility.takes logger entry.level then
    match (entry.fields.map Prod.fst).find? (reserves (facility.madeFor logger entry)) with
    | some key => .error ⟨key⟩
    | none => .ok (facility.handlers.filterMap (Line.ofRecord? (facility.recordOf logger entry)))
  else .ok []

/-- Sends entries through a logger, of which none clashes. -/
def emitAll (facility : Facility) (logger : String) (entries : List Entry) : List Line :=
  entries.flatMap fun entry => (facility.emit logger entry).toOption.getD []

/-- The name of the level to set up: the one given, unless it is empty, else that of the
settings. Its case does not count. -/
def levelName (given : Option String) (settings : Settings) : String :=
  Text.upper ((given.filter (· ≠ "")).getD settings.logLevel)

/-- Steps that are taken with a log. One that fails ends them; what those before it did stays
done. -/
abbrev Steps := ExceptT SetupFault (StateM Facility)

/-- The log once its settings were asked for. -/
def asked (facility : Facility) : Facility :=
  { facility with configuration := facility.configuration.settings.2 }

/-- Asks for the settings in force. -/
def askSettings : Steps Settings :=
  .mk fun facility =>
    (facility.configuration.settings.1.map fun edition => edition.settings, facility.asked)

/-- Gives the root the level of a given name. -/
def setRootLevel (name : String) : Steps Unit :=
  match Level.ofName? name with
  | some level => modify fun facility => { facility with rootLevel := level }
  | none => throw (.unknownLevel name)

/-- Takes all handlers from the root. -/
def clearHandlers : Steps Unit :=
  modify fun facility => { facility with handlers := [] }

/-- Gives the root one more handler. -/
def addHandler (handler : Handler) : Steps Unit :=
  modify fun facility => { facility with handlers := facility.handlers ++ [handler] }

/-- Stamps all later records with a service. -/
def stampRecords (service : Service) : Steps Unit :=
  modify fun facility => { facility with factory := facility.factory.stamping service }

/-- Gives a logger of the database library a level. -/
def setBranchLevel (level : Level) : Branch → Steps Unit
  | .engine => modify fun facility => { facility with engineLevel := level }
  | .pool => modify fun facility => { facility with poolLevel := level }

/-- The steps of a setup with settings. -/
def arrange (given : Option String) (settings : Settings) : Steps Unit := do
  setRootLevel (levelName given settings)
  clearHandlers
  addHandler ⟨true⟩
  stampRecords ⟨settings.appName, settings.environment⟩
  setBranchLevel .warning .engine
  setBranchLevel .warning .pool

/-- Sets the log up. -/
def setup (given : Option String) (facility : Facility) : Except SetupFault Unit × Facility :=
  (askSettings >>= arrange given).run.run facility

/-- The log after a setup with settings and a level. -/
def installed (facility : Facility) (settings : Settings) (level : Level) : Facility :=
  { facility with
    rootLevel := level
    handlers := [⟨true⟩]
    factory := facility.factory.stamping ⟨settings.appName, settings.environment⟩
    engineLevel := .warning
    poolLevel := .warning }

section Setup

variable {α β : Type} {facility later : Facility} {given : Option String} {edition : Edition}
  {level : Level} {fault : SetupFault}

theorem run_bind_ok {first : Steps α} {found : α} (next : α → Steps β)
    (done : first.run.run facility = (.ok found, later)) :
    (first >>= next).run.run facility = (next found).run.run later := by
  show (ExceptT.bindCont next (first.run.run facility).1).run (first.run.run facility).2 = _
  rw [done]
  rfl

theorem run_bind_error {first : Steps α} (next : α → Steps β)
    (failed : first.run.run facility = (.error fault, later)) :
    (first >>= next).run.run facility = (.error fault, later) := by
  show (ExceptT.bindCont next (first.run.run facility).1).run (first.run.run facility).2 = _
  rw [failed]
  rfl

theorem run_askSettings (facility : Facility) :
    askSettings.run.run facility =
      (facility.configuration.settings.1.map fun edition => edition.settings, facility.asked) := rfl

/-- **Without settings, a setup changes nothing but the configuration.** -/
theorem setup_of_error (failed : facility.configuration.settings.1 = .error fault) :
    facility.setup given = (.error fault, facility.asked) := by
  have step := run_askSettings facility
  rw [failed] at step
  exact run_bind_error _ step

theorem setup_of_ok (found : facility.configuration.settings.1 = .ok edition) :
    facility.setup given = (arrange given edition.settings).run.run facility.asked := by
  have step := run_askSettings facility
  rw [found] at step
  exact run_bind_ok _ step

/-- **Without a level, neither does it.** -/
theorem setup_of_unknown (found : facility.configuration.settings.1 = .ok edition)
    (unknown : Level.ofName? (levelName given edition.settings) = none) :
    facility.setup given =
      (.error (.unknownLevel (levelName given edition.settings)), facility.asked) := by
  rw [setup_of_ok found]
  refine run_bind_error _ ?_
  unfold setRootLevel
  rw [unknown]
  rfl

/-- **A setup that has both takes all of its steps.** -/
theorem setup_of_known (found : facility.configuration.settings.1 = .ok edition)
    (known : Level.ofName? (levelName given edition.settings) = some level) :
    facility.setup given = (.ok (), facility.asked.installed edition.settings level) := by
  have named : (setRootLevel (levelName given edition.settings)).run.run facility.asked =
      (.ok (), { facility.asked with rootLevel := level }) := by
    unfold setRootLevel
    rw [known]
    rfl
  rw [setup_of_ok found]
  exact run_bind_ok _ named

end Setup

end Facility

end SignIn.Log

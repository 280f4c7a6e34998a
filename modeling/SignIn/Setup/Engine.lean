/-
**The database engine and the session factory.**

A worker, one process of the service, has one session factory. It is made when it is first asked
for, from the settings in force then, and kept for good; an attempt that fails keeps nothing, so
that a later one may succeed.
-/

import SignIn.Setup.Configuration

namespace SignIn

/-- A pool of connections to the database. -/
structure Engine where
  /-- The number of engines that the worker had made before. It tells engines with the same options
  apart. -/
  serial : Nat
  url : String
  poolSize : Int
  poolOverflow : Int
  poolRecycle : Int
  /-- Whether a connection is tried out before it is used. -/
  checksConnections : Bool
  /-- Whether statements are logged. -/
  echo : Bool
deriving DecidableEq

/-- What an engine is asked for with. -/
structure Engine.Options where
  url : String
  poolSize : Int
  poolOverflow : Int
  poolRecycle : Int
  checksConnections : Bool
  echo : Bool
deriving DecidableEq

/-- The options that settings ask for. -/
def Engine.Options.ofSettings (settings : Settings) : Engine.Options :=
  ⟨settings.databaseUrl, settings.poolSize, settings.poolOverflow, settings.poolRecycle, true,
    settings.databaseEcho⟩

/-- How many connections may be opened beyond the pool, minus one for any number. A pool of no
size has no limit. -/
def Engine.Options.overflow (options : Engine.Options) : Int :=
  if options.poolSize = 0 then -1 else options.poolOverflow

/-- The engine with given options. -/
def Engine.ofOptions (serial : Nat) (options : Engine.Options) : Engine :=
  ⟨serial, options.url, options.poolSize, options.overflow, options.poolRecycle,
    options.checksConnections, options.echo⟩

/-- The database library, as far as it may refuse to make an engine. -/
abbrev Engine.Library := Engine.Options → Option LibraryFailure

/-- An engine for settings, which must name a database; the library must accept it. -/
def Engine.ofSettings (library : Engine.Library) (serial : Nat) (settings : Settings) :
    Except SetupFault Engine :=
  if settings.databaseUrl = "" then .error .missingDatabase
  else
    match library (.ofSettings settings) with
    | some failure => .error (.engineRefused failure)
    | none => .ok (Engine.ofOptions serial (.ofSettings settings))

/-- What opens the sessions of requests. -/
structure SessionFactory where
  engine : Engine
  /-- Whether what was read is forgotten at a commit. -/
  expiresOnCommit : Bool
  /-- Whether changes are sent ahead of each query. -/
  autoflush : Bool
deriving DecidableEq

/-- The session factory over an engine. -/
def SessionFactory.ofEngine (engine : Engine) : SessionFactory :=
  ⟨engine, false, false⟩

/-- The configuration of a worker, and the engine and the session factory that it keeps. -/
structure Worker where
  library : Engine.Library
  configuration : Configuration
  /-- How many engines have been made. -/
  engines : Nat
  engine : Option Engine
  factory : Option SessionFactory

namespace Worker

/-- A worker that was just started in an environment, with a given database library. -/
def startWith (library : Engine.Library) (environment : Settings.Environment) : Worker :=
  ⟨library, Configuration.start.enter environment, 0, none, none⟩

/-- A worker that was just started, with a database library that accepts all options. -/
def start (environment : Settings.Environment) : Worker :=
  startWith (fun _ => none) environment

/-- Makes a new engine from the settings in force; it is not kept. -/
def newEngine (worker : Worker) : Except SetupFault Engine × Worker :=
  let (edition, later) := worker.configuration.settings
  match edition.bind fun edition =>
      Engine.ofSettings worker.library worker.engines edition.settings with
  | .ok engine =>
    (.ok engine, { worker with configuration := later, engines := worker.engines + 1 })
  | .error fault => (.error fault, { worker with configuration := later })

/-- The session factory; it is made over a new engine if there is none. -/
def sessionFactory (worker : Worker) : Except SetupFault SessionFactory × Worker :=
  match worker.factory with
  | some factory => (.ok factory, worker)
  | none =>
    match worker.newEngine with
    | (.ok engine, later) =>
      let factory := SessionFactory.ofEngine engine
      (.ok factory, { later with engine := some engine, factory := some factory })
    | (.error fault, later) => (.error fault, later)

/-- What can happen in a worker. -/
inductive Event where
  | configure (operation : Configuration.Operation)
  | newEngine
  | sessionFactory

/-- What is answered to an event. -/
inductive Answer where
  | configured (settings : Option (Except SetupFault Edition))
  | engine (made : Except SetupFault Engine)
  | factory (found : Except SetupFault SessionFactory)

/-- Lets an event happen. -/
def Event.perform (worker : Worker) : Event → Answer × Worker
  | .configure operation =>
    let (answer, later) := operation.perform worker.configuration
    (.configured answer, { worker with configuration := later })
  | .newEngine => worker.newEngine.map .engine id
  | .sessionFactory => worker.sessionFactory.map .factory id

/-- Lets events happen one after the other. -/
def performAll : Worker → List Event → List Answer × Worker
  | worker, [] => ([], worker)
  | worker, event :: rest =>
    let (answer, later) := event.perform worker
    let (answers, final) := performAll later rest
    (answer :: answers, final)

end Worker

end SignIn

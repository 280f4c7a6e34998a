/-
**One edition of the settings, one session factory.**

Two things are made once in a worker: the settings in force, until they are dropped, and the session
factory, for good. Both are told here by what a run has given so far (`Singletons`):

* `said_after`: settings are in force exactly if some were given and not dropped since;
* `Unread.inForce`, `inForce_after`: calls that fail leave none in force, and settings once in force
  stay until they are dropped;
* `kept_after`, `Unmade.kept`: a session factory once given stays, and until then there is none;
* `sessionFactory_made`, `serial_ne`: the first one is made from the settings in force, over an engine of
  its own;
* `singletons_startWith`: all of it, for every run from the start.
-/

import Mathlib.Data.List.Induction
import SignIn.Proofs.Setup.Event

namespace SignIn.Worker

/-! ### Runs -/

/-- A worker after events. -/
def after (worker : Worker) (events : List Event) : Worker :=
  (worker.performAll events).2

/-- What would be answered to an event after others. -/
def answerTo (worker : Worker) (before : List Event) (event : Event) : Answer :=
  (event.perform (worker.after before)).1

theorem after_cons (worker : Worker) (event : Event) (rest : List Event) :
    worker.after (event :: rest) = (event.perform worker).2.after rest := rfl

theorem after_append (worker : Worker) (first second : List Event) :
    worker.after (first ++ second) = (worker.after first).after second := by
  induction first generalizing worker with
  | nil => rfl
  | cons event rest ih => exact ih (event.perform worker).2

/-- **The answers of a run.** Each event is answered by the worker that the events before it
left. -/
theorem performAll_getElem? (worker : Worker) (before : List Event) (event : Event)
    (rest : List Event) :
    (worker.performAll (before ++ event :: rest)).1[before.length]? =
      some (worker.answerTo before event) := by
  induction before generalizing worker with
  | nil => rfl
  | cons first between ih => exact ih (first.perform worker).2

/-- The environment that was entered last. -/
def environmentAfter (first : Settings.Environment) (events : List Event) : Settings.Environment :=
  events.foldl Event.environment first

/-! ### What a run has answered -/

section Runs

variable {started : Worker} {events : List Event} {edition : Edition} {factory : SessionFactory}

/-- No settings were given since the start of a run, or since they were dropped last. -/
inductive Unread (started : Worker) : List Event → Prop where
  | start : Unread started []
  | dropped (events : List Event) : Unread started (events ++ [.configure .drop])
  | passed {events : List Event} {event : Event} (unread : Unread started events)
      (none : ∀ edition, event.given? (started.after events) ≠ some (.ok edition)) :
      Unread started (events ++ [event])

/-- No session factory was given since the start of a run. -/
inductive Unmade (started : Worker) : List Event → Prop where
  | start : Unmade started []
  | passed {events : List Event} {event : Event} (unmade : Unmade started events)
      (none : ∀ factory, started.answerTo events event ≠ .factory (.ok factory)) :
      Unmade started (events ++ [event])

theorem after_concat (started : Worker) (events : List Event) (event : Event) :
    started.after (events ++ [event]) = (event.perform (started.after events)).2 :=
  started.after_append events [event]

theorem library_after (started : Worker) (events : List Event) :
    (started.after events).library = started.library := by
  induction events using List.reverseRecOn with
  | nil => rfl
  | append_singleton events event ih => rw [after_concat, library_perform, ih]

theorem environment_after (started : Worker) (events : List Event) :
    (started.after events).configuration.environment =
      environmentAfter started.configuration.environment events := by
  induction events using List.reverseRecOn with
  | nil => rfl
  | append_singleton events event ih =>
    rw [after_concat, environment_perform, ih]
    unfold environmentAfter
    rw [List.foldl_append]
    rfl

theorem inForce_after (kept : started.configuration.inForce = some edition)
    (stays : Event.configure .drop ∉ events) :
    (started.after events).configuration.inForce = some edition := by
  induction events generalizing started with
  | nil => exact kept
  | cons event rest ih =>
    rw [List.mem_cons, not_or] at stays
    exact ih (inForce_perform kept (Ne.symm stays.1)) stays.2

theorem Unread.inForce (unread : Unread started events)
    (empty : started.configuration.inForce = none) :
    (started.after events).configuration.inForce = none := by
  induction unread with
  | start => exact empty
  | dropped events =>
    rw [after_concat]
    rfl
  | passed _ none ih =>
    rw [after_concat]
    exact inForce_perform_none ih none

/-- What a run has said about the settings in force: nothing yet, or it has given them before and
not dropped them since. -/
inductive Said (started : Worker) : List Event → Option Edition → Prop where
  | nothing {events : List Event} (unread : Unread started events) : Said started events none
  | given {before between : List Event} {first : Event} {edition : Edition}
      (unread : Unread started before)
      (given : first.given? (started.after before) = some (.ok edition))
      (stays : .configure .drop ∉ between) :
      Said started (before ++ first :: between) (some edition)

theorem Said.concat {event : Event} (said : Said started events (some edition))
    (stays : event ≠ .configure .drop) : Said started (events ++ [event]) (some edition) := by
  cases said with
  | given unread given others =>
    rw [List.append_assoc, List.cons_append]
    refine .given unread given fun dropped => ?_
    rcases List.mem_append.mp dropped with inside | last
    · exact others inside
    · exact stays (List.mem_singleton.mp last).symm

/-- **One step.** What is in force follows what is said. -/
theorem Said.perform {event : Event}
    (said : Said started events (started.after events).configuration.inForce) :
    Said started (events ++ [event])
      (event.perform (started.after events)).2.configuration.inForce := by
  cases known : (started.after events).configuration.inForce with
  | some edition =>
    rw [known] at said
    by_cases dropped : event = .configure .drop
    · subst dropped
      exact .nothing (.dropped events)
    · rw [inForce_perform known dropped]
      exact said.concat dropped
  | none =>
    rw [known] at said
    cases said with
    | nothing unread =>
      by_cases given : ∃ edition, event.given? (started.after events) = some (.ok edition)
      · obtain ⟨edition, given⟩ := given
        rw [inForce_perform_of_given given]
        exact .given unread given List.not_mem_nil
      · have none := not_exists.mp given
        rw [inForce_perform_none known none]
        exact .nothing (unread.passed none)

/-- **Whole runs.** What is in force is what the run has said. -/
theorem said_after (empty : started.configuration.inForce = none) (events : List Event) :
    Said started events (started.after events).configuration.inForce := by
  induction events using List.reverseRecOn with
  | nil =>
    show Said started [] started.configuration.inForce
    rw [empty]
    exact .nothing .start
  | append_singleton events event ih =>
    rw [after_concat]
    exact ih.perform

theorem kept_after (made : started.factory = some factory) (events : List Event) :
    (started.after events).kept = started.kept := by
  induction events using List.reverseRecOn with
  | nil => rfl
  | append_singleton events event ih =>
    rw [after_concat]
    rcases kept_perform (started.after events) event with same | ⟨unmade, -⟩
    · rw [same, ih]
    -- Only a first session factory changes what is kept, and there is one already.
    · have still : (started.after events).factory = some factory :=
        (congrArg Prod.snd ih).trans made
      rw [unmade] at still
      cases still

theorem Unmade.kept (unmade : Unmade started events) :
    (started.after events).kept = started.kept := by
  induction unmade with
  | start => rfl
  | passed _ none ih =>
    rename_i events event _
    rw [after_concat]
    rcases kept_perform (started.after events) event with same | ⟨-, -, engine, made, -⟩
    · rw [same, ih]
    · exact absurd made (none _)

end Runs

/-! ### The two singletons -/

/-- What holds of the settings and the session factory in all runs of a worker. -/
structure Singletons (started : Worker) : Prop where
  /-- Each event of a run is answered by the worker that the events before it have left. -/
  answers : ∀ (before : List Event) (event : Event) (rest : List Event),
    (started.performAll (before ++ event :: rest)).1[before.length]? =
      some (started.answerTo before event)
  /-- Who asks for the settings is answered with those that are given. -/
  settings_answered : ∀ before : List Event,
    started.answerTo before (.configure .settings) =
      .configured (Event.given? (started.after before) (.configure .settings))
  /-- Settings that are given are given again to whoever calls for them before they are dropped. -/
  settings_kept : ∀ (before between : List Event) (first event : Event) (edition : Edition)
    (given : Except SetupFault Edition),
    first.given? (started.after before) = some (.ok edition) → .configure .drop ∉ between →
    event.given? (started.after (before ++ first :: between)) = some given → given = .ok edition
  /-- They were read from the environment of the first call that they were given to. -/
  settings_built : ∀ (events : List Event) (event : Event) (edition : Edition),
    event.given? (started.after events) = some (.ok edition) →
    ∃ before first between, events ++ [event] = before ++ first :: between ∧
      .configure .drop ∉ between ∧ Unread started before ∧
      first.given? (started.after before) = some (.ok edition) ∧
      (Settings.read ⟨environmentAfter started.configuration.environment before, []⟩).outcome =
        .ok edition.settings
  /-- As long as calls for settings fail, each of them reads the environment anew. -/
  settings_reread : ∀ (events : List Event) (event : Event) (given : Except SetupFault Edition),
    Unread started events → event.given? (started.after events) = some given →
    (given.map fun edition => edition.settings) =
      (Settings.read ⟨environmentAfter started.configuration.environment events, []⟩).outcome
  /-- A session factory that is given is given for ever, and kept together with its engine. -/
  factory_kept : ∀ (before between : List Event) (factory : SessionFactory),
    started.answerTo before .sessionFactory = .factory (.ok factory) →
    started.answerTo (before ++ .sessionFactory :: between) .sessionFactory =
        .factory (.ok factory) ∧
      (started.after (before ++ .sessionFactory :: between)).kept =
        (some factory.engine, some factory)
  /-- The first one is made from the settings given to the call for it, over an engine that is made for
  them, unless they make none. Its sessions keep what was read, and send changes when they are told to. -/
  factory_made : ∀ before : List Event, Unmade started before →
    ∃ given, Event.given? (started.after before) .sessionFactory = some given ∧
      ((∃ edition engine, given = .ok edition ∧ engine.MadeFor edition.settings ∧
          started.answerTo before .sessionFactory = .factory (.ok ⟨engine, false, false⟩)) ∨
        ∃ fault, Unfit started.library given fault ∧
          started.answerTo before .sessionFactory = .factory (.error fault))
  /-- The engine is its own: whoever is given an engine, before or later, is given another one. -/
  engine_own : ∀ (before events : List Event) (factory : SessionFactory) (engine : Engine),
    Unmade started before → started.answerTo before .sessionFactory = .factory (.ok factory) →
    started.answerTo events .newEngine = .engine (.ok engine) →
    events ++ [.newEngine] <+: before ∨ before ++ [.sessionFactory] <+: events →
    engine.serial ≠ factory.engine.serial
  /-- A call for it that fails was given settings that make none, and leaves no engine and no
  session factory. -/
  factory_failed : ∀ (before : List Event) (fault : SetupFault),
    started.answerTo before .sessionFactory = .factory (.error fault) →
    (∃ given, Event.given? (started.after before) .sessionFactory = some given ∧
        Unfit started.library given fault) ∧
      (started.after (before ++ [.sessionFactory])).kept = (none, none)
  /-- Whatever has failed before: it is given once settings are read anew that name a database which
  the library accepts. -/
  factory_repaired : ∀ (events : List Event) (environment : Settings.Environment)
    (settings : Settings),
    Settings.read ⟨environment, []⟩ = .complete settings → settings.databaseUrl ≠ "" →
    started.library (.ofSettings settings) = none →
    ∃ factory, started.answerTo
      (events ++ [.configure (.enter environment), .configure .drop]) .sessionFactory =
        .factory (.ok factory)

section Main

variable {started : Worker} {events : List Event} {edition : Edition} {factory : SessionFactory}

theorem settings_of_none (empty : started.configuration.inForce = none) :
    (started.configuration.settings.1.map fun edition => edition.settings) =
      (Settings.read ⟨started.configuration.environment, []⟩).outcome := by
  rcases Configuration.settings_of_none empty with ⟨_, read, whole⟩ | ⟨_, read, whole⟩
  · rw [whole, read]
    rfl
  · rw [whole, read]
    rfl

theorem sessionFactory_of_some (made : started.factory = some factory) :
    started.sessionFactory = (.ok factory, started) := by
  unfold sessionFactory
  rw [made]

/-- **The first session factory is made from the settings in force**, unless they make none. -/
theorem sessionFactory_made (unmade : started.factory = none) :
    (∃ edition engine, started.configuration.settings.1 = .ok edition ∧
        engine.MadeFor edition.settings ∧ engine.serial = started.engines ∧
        started.sessionFactory.1 = .ok ⟨engine, false, false⟩ ∧
        started.sessionFactory.2.engines = started.engines + 1) ∨
      ∃ fault, Unfit started.library started.configuration.settings.1 fault ∧
        started.sessionFactory.1 = .error fault := by
  rcases sessionFactory_cases started with ⟨_, made, -⟩ | ⟨-, engine, made, whole⟩ |
      ⟨-, fault, refused, whole⟩
  · rw [unmade] at made
    cases made
  · cases given : started.configuration.settings.1 with
    | error fault =>
      rw [given] at made
      cases made
    | ok edition =>
      rw [given] at made
      obtain ⟨madeFor, serial⟩ := madeFor_of_engineFrom made
      rw [whole]
      exact .inl ⟨edition, engine, rfl, madeFor, serial, rfl, rfl⟩
  · rw [whole]
    exact .inr ⟨fault, (engineFrom_eq_error_iff started _ fault).mp refused, rfl⟩

theorem engines_after (started : Worker) (events : List Event) :
    started.engines ≤ (started.after events).engines := by
  induction events using List.reverseRecOn with
  | nil => exact Nat.le_refl _
  | append_singleton events event ih =>
    rw [after_concat]
    exact Nat.le_trans ih (engines_perform _ event)

theorem engines_le_of_prefix (started : Worker) {first second : List Event}
    (begins : first <+: second) :
    (started.after first).engines ≤ (started.after second).engines := by
  obtain ⟨rest, rfl⟩ := begins
  rw [after_append]
  exact engines_after _ rest

theorem serial_newEngine {engine : Engine} (given : started.newEngine.1 = .ok engine) :
    engine.serial = started.engines ∧ started.newEngine.2.engines = started.engines + 1 := by
  rcases newEngine_cases started with ⟨found, made, whole⟩ | ⟨_, -, whole⟩
  · rw [whole] at given ⊢
    cases given
    refine ⟨?_, rfl⟩
    cases read : started.configuration.settings.1 with
    | error fault =>
      rw [read] at made
      cases made
    | ok edition =>
      rw [read] at made
      exact (madeFor_of_engineFrom made).2
  · rw [whole] at given
    cases given

/-- **No two engines of a run have the same serial number.** -/
theorem serial_ne {before : List Event} {engine : Engine}
    (unmade : (started.after before).factory = none)
    (made : (started.after before).sessionFactory.1 = .ok factory)
    (given : (started.after events).newEngine.1 = .ok engine)
    (apart : events ++ [.newEngine] <+: before ∨ before ++ [.sessionFactory] <+: events) :
    engine.serial ≠ factory.engine.serial := by
  obtain ⟨serial, counted⟩ := serial_newEngine given
  rcases sessionFactory_made unmade with ⟨_, own, -, -, ownSerial, whole, ownCounted⟩ |
      ⟨_, -, failed⟩
  · cases made.symm.trans whole
    rcases apart with earlier | later
    · have grown := engines_le_of_prefix started earlier
      rw [after_concat] at grown
      have step : (started.after events).newEngine.2.engines ≤ (started.after before).engines := grown
      show engine.serial ≠ own.serial
      omega
    · have grown := engines_le_of_prefix started later
      rw [after_concat] at grown
      have step : (started.after before).sessionFactory.2.engines ≤ (started.after events).engines :=
        grown
      show engine.serial ≠ own.serial
      omega
  · cases made.symm.trans failed

/-- An engine is kept exactly with a session factory over it. -/
def Settled (worker : Worker) : Prop :=
  worker.engine = worker.factory.map fun made => made.engine

theorem Settled.perform (settled : started.Settled) (event : Event) :
    (event.perform started).2.Settled := by
  rcases kept_perform started event with same | ⟨-, -, engine, -, made⟩
  · have engines : (event.perform started).2.engine = started.engine := congrArg Prod.fst same
    have factories : (event.perform started).2.factory = started.factory := congrArg Prod.snd same
    unfold Settled
    rw [engines, factories]
    exact settled
  · have engines : (event.perform started).2.engine = some engine := congrArg Prod.fst made
    have factories : (event.perform started).2.factory = some (.ofEngine engine) :=
      congrArg Prod.snd made
    unfold Settled
    rw [engines, factories]
    rfl

theorem Settled.after (settled : started.Settled) (events : List Event) :
    (started.after events).Settled := by
  induction events using List.reverseRecOn with
  | nil => exact settled
  | append_singleton events event ih =>
    rw [after_concat]
    exact ih.perform event

theorem Settled.kept_of_ok (settled : started.Settled)
    (given : started.sessionFactory.1 = .ok factory) :
    started.sessionFactory.2.kept = (some factory.engine, some factory) := by
  rcases sessionFactory_cases started with ⟨found, made, whole⟩ | ⟨-, engine, -, whole⟩ |
      ⟨-, _, -, whole⟩
  · rw [whole] at given ⊢
    cases given
    unfold Settled at settled
    rw [made] at settled
    exact Prod.ext settled made
  · rw [whole] at given ⊢
    cases given
    rfl
  · rw [whole] at given
    cases given

/-- A call for a session factory that fails was given settings that make none; it leaves none, and
no engine. -/
theorem Settled.of_error {fault : SetupFault} (settled : started.Settled)
    (failed : started.sessionFactory.1 = .error fault) :
    (∃ given, Event.given? started .sessionFactory = some given ∧
        Unfit started.library given fault) ∧
      started.sessionFactory.2.kept = (none, none) := by
  rcases sessionFactory_cases started with ⟨_, -, whole⟩ | ⟨-, _, -, whole⟩ |
      ⟨unmade, _, refused, whole⟩
  · rw [whole] at failed
    cases failed
  · rw [whole] at failed
    cases failed
  · rw [whole] at failed ⊢
    cases failed
    unfold Settled at settled
    rw [unmade] at settled
    have unfit := (engineFrom_eq_error_iff started _ fault).mp refused
    exact ⟨⟨_, given_of_unmade unmade, unfit⟩, Prod.ext settled rfl⟩

/-- Settings in force that name a database which the library accepts make a session factory. -/
theorem exists_sessionFactory {settings : Settings}
    (read : (started.configuration.settings.1.map fun edition => edition.settings) = .ok settings)
    (named : settings.databaseUrl ≠ "") (accepted : started.library (.ofSettings settings) = none) :
    ∃ factory, started.sessionFactory.1 = .ok factory := by
  cases unmade : started.factory with
  | some factory => exact ⟨factory, by rw [sessionFactory_of_some unmade]⟩
  | none =>
    rcases sessionFactory_made unmade with ⟨_, _, -, -, -, made, -⟩ | ⟨_, unfit, -⟩
    · exact ⟨_, made⟩
    · generalize started.configuration.settings.1 = given at read unfit
      cases unfit with
      | unreadable => cases read
      | unnamed unnamed =>
        cases read
        exact absurd unnamed named
      | refused _ refuses =>
        cases read
        cases accepted.symm.trans refuses

theorem Unread.given (unread : Unread started events)
    (empty : started.configuration.inForce = none) {event : Event}
    {given : Except SetupFault Edition} (asked : event.given? (started.after events) = some given) :
    (given.map fun edition => edition.settings) =
      (Settings.read ⟨environmentAfter started.configuration.environment events, []⟩).outcome := by
  rw [given_eq_settings asked, settings_of_none (unread.inForce empty), environment_after]

/-- Settings that are given were given first to a call that read them. -/
theorem exists_first_given (empty : started.configuration.inForce = none) {event : Event}
    (given : event.given? (started.after events) = some (.ok edition)) :
    ∃ before first between, events ++ [event] = before ++ first :: between ∧
      .configure .drop ∉ between ∧ Unread started before ∧
      first.given? (started.after before) = some (.ok edition) := by
  have said := said_after empty events
  cases known : (started.after events).configuration.inForce with
  | none =>
    rw [known] at said
    cases said with
    | nothing unread => exact ⟨events, event, [], rfl, List.not_mem_nil, unread, given⟩
  | some kept =>
    have same : edition = kept := by
      have answer := given_eq_settings given
      rw [Configuration.settings_of_inForce known] at answer
      exact Except.ok.inj answer
    have calls : event ≠ .configure .drop := by
      rintro rfl
      cases given
    rw [known, ← same] at said
    have longer := said.concat calls
    generalize events ++ [event] = whole at longer
    cases longer with
    | given unread first stays => exact ⟨_, _, _, rfl, stays, unread, first⟩

theorem settled_startWith (library : Engine.Library) (environment : Settings.Environment) :
    (startWith library environment).Settled := rfl

/-- **One edition of the settings, one session factory.** -/
theorem singletons_startWith (library : Engine.Library) (environment : Settings.Environment) :
    Singletons (startWith library environment) where
  answers := performAll_getElem? (startWith library environment)
  settings_answered _ := rfl
  settings_kept before between first event edition given first_given stays later_given := by
    have known := inForce_perform_of_given first_given
    have still := inForce_after known stays
    rw [after_append, after_cons] at later_given
    rw [given_eq_settings later_given, Configuration.settings_of_inForce still]
  settings_built events event edition given := by
    obtain ⟨before, first, between, split, stays, unread, found⟩ := exists_first_given rfl given
    exact ⟨before, first, between, split, stays, unread, found, (unread.given rfl found).symm⟩
  settings_reread events event given unread asked := unread.given rfl asked
  factory_kept before between factory made := by
    have settled := (settled_startWith library environment).after before
    have kept := settled.kept_of_ok (Answer.factory.inj made)
    have still := kept_after (congrArg Prod.snd kept) between
    have final : ((startWith library environment).after
        (before ++ .sessionFactory :: between)).kept = (some factory.engine, some factory) := by
      rw [after_append, after_cons]
      exact still.trans kept
    have found := sessionFactory_of_some (congrArg Prod.snd final)
    exact ⟨congrArg Answer.factory (congrArg Prod.fst found), final⟩
  factory_made before unmade := by
    have none := congrArg Prod.snd unmade.kept
    refine ⟨_, given_of_unmade none, ?_⟩
    rcases sessionFactory_made none with ⟨edition, engine, read, madeFor, -, made, -⟩ |
        ⟨fault, unfit, failed⟩
    · exact .inl ⟨edition, engine, read, madeFor, congrArg Answer.factory made⟩
    · rw [library_after] at unfit
      exact .inr ⟨fault, unfit, congrArg Answer.factory failed⟩
  engine_own before events factory engine unmade made given apart :=
    serial_ne (congrArg Prod.snd unmade.kept) (Answer.factory.inj made) (Answer.engine.inj given) apart
  factory_failed before fault failed := by
    have settled := (settled_startWith library environment).after before
    obtain ⟨⟨given, asked, unfit⟩, nothing⟩ := settled.of_error (Answer.factory.inj failed)
    rw [library_after] at unfit
    rw [after_concat]
    exact ⟨⟨given, asked, unfit⟩, nothing⟩
  factory_repaired events repaired settings read named accepted := by
    let later := (startWith library environment).after
      (events ++ [.configure (.enter repaired), .configure .drop])
    have whole : later.configuration =
        (((startWith library environment).after events).configuration.enter repaired).drop := by
      show ((startWith library environment).after (events ++ _)).configuration = _
      rw [after_append]
      rfl
    have empty : later.configuration.inForce = none := by
      rw [whole]
      rfl
    have readable : (later.configuration.settings.1.map fun edition => edition.settings) =
        .ok settings := by
      rw [settings_of_none empty, whole]
      exact congrArg Settings.Reading.outcome read
    have accepts : later.library (.ofSettings settings) = none := by
      rw [library_after]
      exact accepted
    obtain ⟨factory, made⟩ := exists_sessionFactory readable named accepts
    exact ⟨factory, congrArg Answer.factory made⟩

/-- A worker that was started without a database: its session factory fails, also in a repaired
environment, until the settings are dropped; from then on it is one and the same, with the database that
was named then. -/
theorem factory_outlives_environment :
    let refused : LibraryFailure := ⟨"NoSuchModuleError", "no such database"⟩
    let library : Engine.Library := fun options =>
      if options.url = "mysql://db" then some refused else none
    let started := startWith library [("AUTH_DATABASE_URL", "")]
    let repair : List Event :=
      [.configure (.enter [("AUTH_DATABASE_URL", "postgresql+asyncpg://db")]), .configure .drop]
    let spoil : List Event := [.configure (.enter [("AUTH_DATABASE_URL", "mysql://db")]),
      .configure .drop]
    started.answerTo [] .sessionFactory = .factory (.error .missingDatabase) ∧
      (started.after [.sessionFactory]).kept = (none, none) ∧
      started.answerTo (.sessionFactory :: spoil) .sessionFactory =
        .factory (.error (.engineRefused refused)) ∧
      ∃ engine : Engine,
        engine.url = "postgresql+asyncpg://db" ∧ engine.poolSize = 5 ∧ engine.poolOverflow = 10 ∧
          engine.poolRecycle = 1800 ∧ engine.checksConnections = true ∧ engine.echo = false ∧
          started.answerTo (.sessionFactory :: repair) .sessionFactory =
            .factory (.ok ⟨engine, false, false⟩) ∧
          started.answerTo (.sessionFactory :: repair ++ .sessionFactory :: spoil) .sessionFactory =
            .factory (.ok ⟨engine, false, false⟩) := by
  intro refused library started repair spoil
  have singletons := singletons_startWith library [("AUTH_DATABASE_URL", "")]
  have failed : started.answerTo [] .sessionFactory = .factory (.error .missingDatabase) := rfl
  have unmade : Unmade started (.sessionFactory :: repair) := by
    refine .passed (.passed (.passed .start ?_) ?_) ?_ <;>
    · intro factory made
      cases made
  obtain ⟨given, asked, made⟩ := singletons.factory_made _ unmade
  have read : ∃ edition : Edition, given = .ok edition ∧
      edition.settings.databaseUrl = "postgresql+asyncpg://db" ∧ edition.settings.poolSize = 5 ∧
      edition.settings.poolOverflow = 10 ∧ edition.settings.poolRecycle = 1800 ∧
      edition.settings.databaseEcho = false := by
    cases asked
    exact ⟨_, rfl, rfl, rfl, rfl, rfl, rfl⟩
  obtain ⟨edition, rfl, url, poolSize, poolOverflow, poolRecycle, echo⟩ := read
  rcases made with ⟨_, engine, same, madeFor, made⟩ | ⟨fault, unfit, -⟩
  · cases same
    refine ⟨failed, (singletons.factory_failed [] _ failed).2, rfl, engine, madeFor.url.trans url,
      madeFor.poolSize.trans poolSize, ?_, madeFor.poolRecycle.trans poolRecycle,
      madeFor.checksConnections, madeFor.echo.trans echo, made,
      (singletons.factory_kept _ spoil _ made).1⟩
    rw [madeFor.poolOverflow, poolSize, poolOverflow]
    rfl
  · have other : edition.settings.databaseUrl ≠ "mysql://db" := by
      rw [url]
      decide
    have accepted : library (.ofSettings edition.settings) = none := if_neg other
    cases unfit with
    | unnamed unnamed => exact absurd (url.symm.trans unnamed) (by decide)
    | refused _ refuses => cases accepted.symm.trans refuses

end Main

end SignIn.Worker

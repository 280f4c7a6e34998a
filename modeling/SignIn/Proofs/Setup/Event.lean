/-
**What one event does.**

A worker has settings in force, which may be dropped, and keeps an engine and a session factory for
good:

* `perform_cases`: an event calls for the settings in force, drops them, or leaves them alone;
* `inForce_perform`, `inForce_perform_none`: settings in force stay until they are dropped, and none
  come into force unless they are given;
* `kept_perform`: what is kept for good changes only once, when a session factory is given;
* `madeFor_of_engineFrom`: an engine has what the settings say that it was made from (`Engine.MadeFor`);
* `newEngine_cases`, `engines_perform`: engines are counted, and each has the count before it as its
  serial number.
-/

import SignIn.Setup.Engine

namespace SignIn

/-! ### The settings in force -/

namespace Configuration

variable {configuration : Configuration} {edition : Edition} {fault : SetupFault}

theorem settings_of_inForce (kept : configuration.inForce = some edition) :
    configuration.settings = (.ok edition, configuration) := by
  unfold settings
  rw [kept]

/-- Without settings in force the environment is read; new settings come into force. -/
theorem settings_of_none (empty : configuration.inForce = none) :
    (∃ settings, (Settings.read ⟨configuration.environment, []⟩).outcome = .ok settings ∧
        configuration.settings = (.ok ⟨settings, configuration.editions⟩,
          ⟨configuration.environment, some ⟨settings, configuration.editions⟩,
            configuration.editions + 1⟩)) ∨
      ∃ fault, (Settings.read ⟨configuration.environment, []⟩).outcome = .error fault ∧
        configuration.settings = (.error fault, configuration) := by
  unfold settings readNew
  rw [empty]
  cases (Settings.read ⟨configuration.environment, []⟩).outcome with
  | ok settings => exact .inl ⟨settings, rfl, rfl⟩
  | error fault => exact .inr ⟨fault, rfl, rfl⟩

theorem inForce_settings (given : configuration.settings.1 = .ok edition) :
    configuration.settings.2.inForce = some edition := by
  cases empty : configuration.inForce with
  | some kept =>
    rw [settings_of_inForce empty] at given ⊢
    cases given
    exact empty
  | none =>
    rcases settings_of_none empty with ⟨settings, -, whole⟩ | ⟨fault, -, whole⟩
    · rw [whole] at given ⊢
      cases given
      rfl
    · rw [whole] at given
      cases given

theorem settings_failed (failed : configuration.settings.1 = .error fault) :
    configuration.settings.2 = configuration := by
  cases empty : configuration.inForce with
  | some kept => rw [settings_of_inForce empty]
  | none =>
    rcases settings_of_none empty with ⟨settings, -, whole⟩ | ⟨found, -, whole⟩
    · rw [whole] at failed
      cases failed
    · rw [whole]

theorem environment_settings :
    configuration.settings.2.environment = configuration.environment := by
  cases empty : configuration.inForce with
  | some kept => rw [settings_of_inForce empty]
  | none =>
    rcases settings_of_none empty with ⟨settings, -, whole⟩ | ⟨found, -, whole⟩ <;> rw [whole]

theorem inForce_readNew : configuration.readNew.2.inForce = configuration.inForce := by
  unfold readNew
  cases (Settings.read ⟨configuration.environment, []⟩).outcome <;> rfl

theorem environment_readNew : configuration.readNew.2.environment = configuration.environment := by
  unfold readNew
  cases (Settings.read ⟨configuration.environment, []⟩).outcome <;> rfl

end Configuration

/-- An engine is made for settings: they name its database, and the pool is the one that they ask for,
without a limit if it has no size. -/
structure Engine.MadeFor (engine : Engine) (settings : Settings) : Prop where
  named : settings.databaseUrl ≠ ""
  url : engine.url = settings.databaseUrl
  poolSize : engine.poolSize = settings.poolSize
  poolOverflow : engine.poolOverflow = if settings.poolSize = 0 then -1 else settings.poolOverflow
  poolRecycle : engine.poolRecycle = settings.poolRecycle
  checksConnections : engine.checksConnections = true
  echo : engine.echo = settings.databaseEcho

namespace Worker

variable {worker : Worker} {event : Event} {edition : Edition} {engine : Engine}
  {factory : SessionFactory}

/-! ### Engines and session factories -/

/-- The engine that is made from given settings, or why none is. -/
def engineFrom (worker : Worker) (given : Except SetupFault Edition) : Except SetupFault Engine :=
  given.bind fun edition => Engine.ofSettings worker.library worker.engines edition.settings

/-- Why given settings make no engine. -/
inductive Unfit (library : Engine.Library) : Except SetupFault Edition → SetupFault → Prop where
  | unreadable (fault : SetupFault) : Unfit library (.error fault) fault
  | unnamed {edition : Edition} (unnamed : edition.settings.databaseUrl = "") :
      Unfit library (.ok edition) .missingDatabase
  | refused {edition : Edition} {failure : LibraryFailure}
      (named : edition.settings.databaseUrl ≠ "")
      (refuses : library (.ofSettings edition.settings) = some failure) :
      Unfit library (.ok edition) (.engineRefused failure)

/-- **No engine is made exactly for one of these reasons.** -/
theorem engineFrom_eq_error_iff (worker : Worker) (given : Except SetupFault Edition)
    (fault : SetupFault) :
    worker.engineFrom given = .error fault ↔ Unfit worker.library given fault := by
  unfold engineFrom
  cases given with
  | error found =>
    constructor
    · intro failed
      cases failed
      exact .unreadable _
    · intro unfit
      cases unfit
      rfl
  | ok edition =>
    show Engine.ofSettings worker.library worker.engines edition.settings = _ ↔ _
    unfold Engine.ofSettings
    constructor
    · intro failed
      split at failed
      · rename_i unnamed
        cases failed
        exact .unnamed unnamed
      · rename_i named
        split at failed
        · rename_i failure refuses
          cases failed
          exact .refused named refuses
        · cases failed
    · intro unfit
      cases unfit with
      | unnamed unnamed => rw [if_pos unnamed]
      | refused named refuses => rw [if_neg named, refuses]

/-- **An engine has what the settings say that it was made from**, and a serial number of its own. -/
theorem madeFor_of_engineFrom (made : worker.engineFrom (.ok edition) = .ok engine) :
    engine.MadeFor edition.settings ∧ engine.serial = worker.engines := by
  have whole : Engine.ofSettings worker.library worker.engines edition.settings = .ok engine := made
  unfold Engine.ofSettings at whole
  split at whole
  · cases whole
  · rename_i named
    split at whole
    · cases whole
    · cases whole
      exact ⟨⟨named, rfl, rfl, rfl, rfl, rfl, rfl⟩, rfl⟩

/-- **A new engine.** It is counted if it can be made. -/
theorem newEngine_cases (worker : Worker) :
    (∃ engine, worker.engineFrom worker.configuration.settings.1 = .ok engine ∧
        worker.newEngine = (.ok engine, ⟨worker.library, worker.configuration.settings.2,
          worker.engines + 1, worker.engine, worker.factory⟩)) ∨
      ∃ fault, worker.engineFrom worker.configuration.settings.1 = .error fault ∧
        worker.newEngine = (.error fault, ⟨worker.library, worker.configuration.settings.2,
          worker.engines, worker.engine, worker.factory⟩) := by
  unfold newEngine engineFrom
  cases made : worker.configuration.settings.1.bind fun edition =>
      Engine.ofSettings worker.library worker.engines edition.settings with
  | ok engine => exact .inl ⟨engine, rfl, by simp only [made]⟩
  | error fault => exact .inr ⟨fault, rfl, by simp only [made]⟩

theorem newEngine_snd (worker : Worker) :
    ∃ engines, worker.newEngine.2 = ⟨worker.library, worker.configuration.settings.2, engines,
      worker.engine, worker.factory⟩ := by
  rcases newEngine_cases worker with ⟨engine, -, whole⟩ | ⟨fault, -, whole⟩
  · exact ⟨worker.engines + 1, congrArg Prod.snd whole⟩
  · exact ⟨worker.engines, congrArg Prod.snd whole⟩

/-- **A call for the session factory.** One that was made is given; else one is made over a new
engine, if there can be one. -/
theorem sessionFactory_cases (worker : Worker) :
    (∃ factory, worker.factory = some factory ∧ worker.sessionFactory = (.ok factory, worker)) ∨
      (worker.factory = none ∧
        ∃ engine, worker.engineFrom worker.configuration.settings.1 = .ok engine ∧
          worker.sessionFactory = (.ok (.ofEngine engine), ⟨worker.library,
            worker.configuration.settings.2, worker.engines + 1, some engine,
            some (.ofEngine engine)⟩)) ∨
      (worker.factory = none ∧
        ∃ fault, worker.engineFrom worker.configuration.settings.1 = .error fault ∧
          worker.sessionFactory = (.error fault, ⟨worker.library,
            worker.configuration.settings.2, worker.engines, worker.engine, none⟩)) := by
  unfold sessionFactory newEngine engineFrom
  cases unmade : worker.factory with
  | some factory => exact .inl ⟨factory, rfl, rfl⟩
  | none =>
    cases made : worker.configuration.settings.1.bind fun edition =>
        Engine.ofSettings worker.library worker.engines edition.settings with
    | ok engine => exact .inr (.inl ⟨rfl, engine, rfl, by simp only [made]⟩)
    | error fault => exact .inr (.inr ⟨rfl, fault, rfl, by simp only [made]⟩)

/-! ### What an event calls for -/

/-- The environment after an event. -/
def Event.environment (last : Settings.Environment) : Event → Settings.Environment
  | .configure (.enter environment) => environment
  | _ => last

/-- The settings that an event calls for, as they are given to it: whoever asks for the settings or
for a new engine calls for them, and the session factory does as long as there is none. -/
def Event.given? (worker : Worker) : Event → Option (Except SetupFault Edition)
  | .configure .settings | .newEngine => some worker.configuration.settings.1
  | .configure _ => none
  | .sessionFactory =>
    match worker.factory with
    | some _ => none
    | none => some worker.configuration.settings.1

theorem given_of_unmade (unmade : worker.factory = none) :
    Event.given? worker .sessionFactory = some worker.configuration.settings.1 := by
  simp only [Event.given?, unmade]

/-! ### What an event does -/

/-- **What an event does to the settings.** It calls for them, drops them, or leaves those in force
alone. -/
theorem perform_cases (worker : Worker) (event : Event) :
    (event.given? worker = some worker.configuration.settings.1 ∧
        (event.perform worker).2.configuration = worker.configuration.settings.2) ∨
      (event = .configure .drop ∧ (event.perform worker).2.configuration.inForce = none) ∨
      (event.given? worker = none ∧
        (event.perform worker).2.configuration.inForce = worker.configuration.inForce) := by
  cases event with
  | configure operation =>
    cases operation with
    | enter environment => exact .inr (.inr ⟨rfl, rfl⟩)
    | drop => exact .inr (.inl ⟨rfl, rfl⟩)
    | settings => exact .inl ⟨rfl, rfl⟩
    | readNew => exact .inr (.inr ⟨rfl, Configuration.inForce_readNew⟩)
  | newEngine =>
    obtain ⟨engines, whole⟩ := newEngine_snd worker
    exact .inl ⟨rfl, congrArg configuration whole⟩
  | sessionFactory =>
    have state : (Event.sessionFactory.perform worker).2 = worker.sessionFactory.2 := rfl
    rw [state]
    rcases sessionFactory_cases worker with ⟨_, made, whole⟩ | ⟨unmade, _, -, whole⟩ |
        ⟨unmade, _, -, whole⟩
    · rw [whole]
      exact .inr (.inr ⟨by simp only [Event.given?, made], rfl⟩)
    · rw [whole]
      exact .inl ⟨given_of_unmade unmade, rfl⟩
    · rw [whole]
      exact .inl ⟨given_of_unmade unmade, rfl⟩

theorem environment_perform (worker : Worker) (event : Event) :
    (event.perform worker).2.configuration.environment =
      event.environment worker.configuration.environment := by
  cases event with
  | configure operation =>
    cases operation with
    | enter environment => rfl
    | drop => rfl
    | settings => exact Configuration.environment_settings
    | readNew => exact Configuration.environment_readNew
  | newEngine =>
    obtain ⟨engines, whole⟩ := newEngine_snd worker
    show worker.newEngine.2.configuration.environment = _
    rw [whole]
    exact Configuration.environment_settings
  | sessionFactory =>
    show worker.sessionFactory.2.configuration.environment = _
    rcases sessionFactory_cases worker with ⟨_, -, whole⟩ | ⟨-, _, -, whole⟩ | ⟨-, _, -, whole⟩
    · rw [whole]
      rfl
    · rw [whole]
      exact Configuration.environment_settings
    · rw [whole]
      exact Configuration.environment_settings

theorem given_eq_settings {given : Except SetupFault Edition}
    (asked : event.given? worker = some given) : given = worker.configuration.settings.1 := by
  cases event with
  | configure operation =>
    cases operation with
    | settings => exact (Option.some.inj asked).symm
    | enter _ | drop | readNew => cases asked
  | newEngine => exact (Option.some.inj asked).symm
  | sessionFactory =>
    unfold Event.given? at asked
    simp only at asked
    split at asked
    · cases asked
    · exact (Option.some.inj asked).symm

theorem inForce_perform_of_given (given : event.given? worker = some (.ok edition)) :
    (event.perform worker).2.configuration.inForce = some edition := by
  have known := (given_eq_settings given).symm
  rcases perform_cases worker event with ⟨-, later⟩ | ⟨rfl, -⟩ | ⟨silent, -⟩
  · rw [later]
    exact Configuration.inForce_settings known
  · cases given
  · rw [silent] at given
    cases given

/-- Settings in force stay in force unless they are dropped. -/
theorem inForce_perform (kept : worker.configuration.inForce = some edition)
    (stays : event ≠ .configure .drop) :
    (event.perform worker).2.configuration.inForce = some edition := by
  rcases perform_cases worker event with ⟨-, later⟩ | ⟨dropped, -⟩ | ⟨-, later⟩
  · rw [later, Configuration.settings_of_inForce kept]
    exact kept
  · exact absurd dropped stays
  · rw [later, kept]

theorem inForce_perform_none (empty : worker.configuration.inForce = none)
    (unread : ∀ edition, event.given? worker ≠ some (.ok edition)) :
    (event.perform worker).2.configuration.inForce = none := by
  rcases perform_cases worker event with ⟨given, later⟩ | ⟨-, later⟩ | ⟨-, later⟩
  · cases read : worker.configuration.settings.1 with
    | ok edition =>
      rw [read] at given
      exact absurd given (unread edition)
    | error fault =>
      rw [later, Configuration.settings_failed read]
      exact empty
  · exact later
  · rw [later, empty]

theorem library_perform (worker : Worker) (event : Event) :
    (event.perform worker).2.library = worker.library := by
  cases event with
  | configure operation => rfl
  | newEngine =>
    obtain ⟨engines, whole⟩ := newEngine_snd worker
    show worker.newEngine.2.library = _
    rw [whole]
  | sessionFactory =>
    show worker.sessionFactory.2.library = _
    rcases sessionFactory_cases worker with ⟨_, -, whole⟩ | ⟨-, _, -, whole⟩ | ⟨-, _, -, whole⟩ <;>
      rw [whole]

/-- **Engines are only ever counted up.** -/
theorem engines_perform (worker : Worker) (event : Event) :
    worker.engines ≤ (event.perform worker).2.engines := by
  cases event with
  | configure operation => exact Nat.le_refl _
  | newEngine =>
    show worker.engines ≤ worker.newEngine.2.engines
    rcases newEngine_cases worker with ⟨_, -, whole⟩ | ⟨_, -, whole⟩
    · have counted : worker.newEngine.2.engines = worker.engines + 1 := by rw [whole]
      omega
    · have same : worker.newEngine.2.engines = worker.engines := by rw [whole]
      omega
  | sessionFactory =>
    show worker.engines ≤ worker.sessionFactory.2.engines
    rcases sessionFactory_cases worker with ⟨_, -, whole⟩ | ⟨-, _, -, whole⟩ | ⟨-, _, -, whole⟩
    · have same : worker.sessionFactory.2.engines = worker.engines := by rw [whole]
      omega
    · have counted : worker.sessionFactory.2.engines = worker.engines + 1 := by rw [whole]
      omega
    · have same : worker.sessionFactory.2.engines = worker.engines := by rw [whole]
      omega

/-- What a worker keeps for good. -/
def kept (worker : Worker) : Option Engine × Option SessionFactory :=
  (worker.engine, worker.factory)

/-- **What an event does to what is kept for good.** -/
theorem kept_perform (worker : Worker) (event : Event) :
    (event.perform worker).2.kept = worker.kept ∨
      worker.factory = none ∧ event = .sessionFactory ∧
        ∃ engine, (event.perform worker).1 = .factory (.ok (.ofEngine engine)) ∧
          (event.perform worker).2.kept = (some engine, some (.ofEngine engine)) := by
  cases event with
  | configure operation => exact .inl rfl
  | newEngine =>
    obtain ⟨engines, whole⟩ := newEngine_snd worker
    show worker.newEngine.2.kept = _ ∨ _
    rw [whole]
    exact .inl rfl
  | sessionFactory =>
    show worker.sessionFactory.2.kept = _ ∨ _ ∧ _ ∧ ∃ engine,
      Answer.factory worker.sessionFactory.1 = _ ∧ worker.sessionFactory.2.kept = _
    rcases sessionFactory_cases worker with ⟨_, -, whole⟩ | ⟨unmade, engine, -, whole⟩ |
        ⟨unmade, _, -, whole⟩
    · rw [whole]
      exact .inl rfl
    · rw [whole]
      exact .inr ⟨unmade, rfl, engine, rfl, rfl⟩
    · rw [whole]
      exact .inl (Prod.ext rfl unmade.symm)

end Worker

end SignIn

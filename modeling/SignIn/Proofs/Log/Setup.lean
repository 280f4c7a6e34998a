/-
**Setting the log up again and again.**

A setup needs settings in force and a level with the name that is asked for. A log may be set up any
number of times, while its environment changes and its settings are dropped; what holds then is told
by the last setup that found what it needs (`LastTerms`):

* `Finds.setup_eq`, `Misses.setup_eq`: a setup arranges everything anew, or nothing at all;
* `LastTerms.arrangement_eq`: until a setup succeeds, the log is as it was at the start;
* `LastTerms.serves`: from then on, it is as the last one that succeeded has arranged it;
* `Arrangement.Serves.emit_unhindered`: what is sent through it then and taken is written in one line,
  unless its fields are in the way;
* `safe_setups`: all of it, for every run, with the records and the lines that come of it.
-/

import Mathlib.Data.List.Induction
import SignIn.Log.Operation
import SignIn.Proofs.Log.Line
import SignIn.Proofs.Setup.Event

namespace SignIn.Log.Facility

/-! ### What a setup needs -/

/-- Settings that are in force when they are asked for: those that are kept, else those that the
environment holds. -/
inductive InForce (configuration : Configuration) : Settings → Prop where
  | kept {edition : Edition} (kept : configuration.inForce = some edition) :
      InForce configuration edition.settings
  | read {settings : Settings} (empty : configuration.inForce = none)
      (valid : Settings.read ⟨configuration.environment, []⟩ = .complete settings) :
      InForce configuration settings

/-- The name of the level that a setup asks for: the one given, unless it is empty, else that of the
settings. -/
inductive AsksFor (settings : Settings) : Option String → String → Prop where
  | given {name : String} (named : name ≠ "") : AsksFor settings (some name) name
  | empty : AsksFor settings (some "") settings.logLevel
  | silent : AsksFor settings none settings.logLevel

/-- What a log is set up with. -/
structure Terms where
  settings : Settings
  level : Level

/-- A setup finds all it needs. -/
structure Finds (configuration : Configuration) (given : Option String) (terms : Terms) : Prop where
  inForce : InForce configuration terms.settings
  named : ∃ name, AsksFor terms.settings given name ∧
    Level.ofName? (Text.upper name) = some terms.level

/-- What a setup lacks. -/
inductive Misses (configuration : Configuration) (given : Option String) : SetupFault → Prop where
  | invalid {issues : List Settings.Issue} (empty : configuration.inForce = none)
      (flawed : Settings.read ⟨configuration.environment, []⟩ = .flawed issues) :
      Misses configuration given (.invalidSettings issues)
  | unknown {settings : Settings} {name : String} (inForce : InForce configuration settings)
      (asks : AsksFor settings given name) (unknown : Level.ofName? (Text.upper name) = none) :
      Misses configuration given (.unknownLevel (Text.upper name))

section Needs

variable {configuration : Configuration} {facility : Facility} {given : Option String}
  {settings : Settings} {name : String} {terms : Terms} {fault : SetupFault}

theorem InForce.exists_settings (inForce : InForce configuration settings) :
    ∃ serial, configuration.settings.1 = .ok ⟨settings, serial⟩ := by
  cases inForce with
  | kept kept =>
    rename_i edition
    exact ⟨edition.serial, by rw [Configuration.settings_of_inForce kept]⟩
  | read empty valid =>
    rcases Configuration.settings_of_none empty with ⟨found, read, whole⟩ | ⟨fault, read, -⟩
    · rw [valid] at read
      cases read
      exact ⟨_, by rw [whole]⟩
    · rw [valid] at read
      cases read

theorem settings_of_flawed {issues : List Settings.Issue} (empty : configuration.inForce = none)
    (flawed : Settings.read ⟨configuration.environment, []⟩ = .flawed issues) :
    configuration.settings.1 = .error (.invalidSettings issues) := by
  rcases Configuration.settings_of_none empty with ⟨_, read, -⟩ | ⟨fault, read, whole⟩
  · rw [flawed] at read
    cases read
  · rw [flawed] at read
    cases read
    rw [whole]

theorem exists_inForce_or (configuration : Configuration) :
    (∃ settings, InForce configuration settings) ∨ configuration.inForce = none ∧
      ∃ issues, Settings.read ⟨configuration.environment, []⟩ = .flawed issues := by
  cases known : configuration.inForce with
  | some edition => exact .inl ⟨_, .kept known⟩
  | none =>
    cases read : Settings.read ⟨configuration.environment, []⟩ with
    | complete settings => exact .inl ⟨settings, .read known read⟩
    | flawed issues => exact .inr ⟨rfl, issues, rfl⟩

theorem AsksFor.levelName_eq (asks : AsksFor settings given name) :
    levelName given settings = Text.upper name := by
  unfold levelName
  cases asks with
  | given named =>
    rw [Option.filter_some, if_pos (decide_eq_true named)]
    rfl
  | empty => rfl
  | silent => rfl

theorem exists_asksFor (settings : Settings) (given : Option String) :
    ∃ name, AsksFor settings given name := by
  cases given with
  | none => exact ⟨_, .silent⟩
  | some name =>
    by_cases named : name = ""
    · subst named
      exact ⟨_, .empty⟩
    · exact ⟨name, .given named⟩

/-- **A setup that finds all it needs arranges everything anew.** -/
theorem Finds.setup_eq (finds : Finds facility.configuration given terms) :
    facility.setup given = (.ok (), facility.asked.installed terms.settings terms.level) := by
  obtain ⟨serial, found⟩ := finds.inForce.exists_settings
  obtain ⟨name, asks, known⟩ := finds.named
  rw [← asks.levelName_eq] at known
  exact setup_of_known found known

/-- **A setup that lacks something fails, and changes nothing but the configuration.** -/
theorem Misses.setup_eq (misses : Misses facility.configuration given fault) :
    facility.setup given = (.error fault, facility.asked) := by
  cases misses with
  | invalid empty flawed => exact setup_of_error (settings_of_flawed empty flawed)
  | unknown inForce asks unknown =>
    obtain ⟨serial, found⟩ := inForce.exists_settings
    rw [← asks.levelName_eq] at unknown ⊢
    have failed := setup_of_unknown found unknown
    exact failed

theorem Finds.not_misses (finds : Finds facility.configuration given terms) :
    ¬ Misses facility.configuration given fault := by
  intro misses
  have both := finds.setup_eq.symm.trans misses.setup_eq
  cases congrArg Prod.fst both

theorem Misses.fault_eq {other : SetupFault} (misses : Misses facility.configuration given fault)
    (others : Misses facility.configuration given other) : fault = other := by
  have both := misses.setup_eq.symm.trans others.setup_eq
  cases congrArg Prod.fst both
  rfl

theorem finds_or_misses (configuration : Configuration) (given : Option String) :
    (∃ terms, Finds configuration given terms) ∨ ∃ fault, Misses configuration given fault := by
  rcases exists_inForce_or configuration with ⟨settings, inForce⟩ | ⟨empty, issues, flawed⟩
  · obtain ⟨name, asks⟩ := exists_asksFor settings given
    cases known : Level.ofName? (Text.upper name) with
    | some level => exact .inl ⟨⟨settings, level⟩, inForce, name, asks, known⟩
    | none => exact .inr ⟨_, .unknown inForce asks known⟩
  · exact .inr ⟨_, .invalid empty flawed⟩

end Needs

/-! ### One operation -/

/-- What a setup arranges: all of a log but its configuration. -/
structure Arrangement where
  rootLevel : Level
  handlers : List Handler
  factory : RecordFactory
  engineLevel : Level
  poolLevel : Level

/-- How a log is arranged. -/
def arrangement (facility : Facility) : Arrangement :=
  ⟨facility.rootLevel, facility.handlers, facility.factory, facility.engineLevel, facility.poolLevel⟩

/-- A log is arranged for terms: it has their level, one handler, which hides secrets, and makes
records with one service, which is that of their settings. -/
structure Arrangement.Serves (arrangement : Arrangement) (terms : Terms) : Prop where
  rootLevel : arrangement.rootLevel = terms.level
  handlers : arrangement.handlers = [⟨true⟩]
  engineLevel : arrangement.engineLevel = .warning
  poolLevel : arrangement.poolLevel = .warning
  stamped : ∀ level logger message,
    (arrangement.factory level logger message).service =
        some ⟨terms.settings.appName, terms.settings.environment⟩ ∧
      ∀ field ∈ (arrangement.factory level logger message).fields, field.1 ≠ Service.fieldName

/-- Nothing keeps an entry from being written once it is taken: none of its fields has the name of a
part of its record, and what the filter leaves of the fields of the record is in nobody's way. -/
structure Unhindered (facility : Facility) (logger : String) (entry : Entry) : Prop where
  unreserved : ∀ field ∈ entry.fields, field.1 ∉ recordKeys ∧ field.1 ≠ Service.fieldName ∧
    field.1 ∉ (facility.madeFor logger entry).fields.map Prod.fst
  unobstructed : Line.Unobstructed (redact (facility.recordOf logger entry).fields)

section Operations

variable {facility : Facility} {given : Option String} {terms : Terms} {fault : SetupFault}

theorem serves_installed (facility : Facility) (terms : Terms) :
    (facility.installed terms.settings terms.level).arrangement.Serves terms where
  rootLevel := rfl
  handlers := rfl
  engineLevel := rfl
  poolLevel := rfl
  stamped level logger message := by
    refine ⟨rfl, fun field inside => ?_⟩
    have kept := (List.mem_filter.mp inside).2
    exact bne_iff_ne.mp kept

theorem Finds.perform_eq (finds : Finds facility.configuration given terms) :
    (Operation.setup given).perform facility =
      ⟨facility.asked.installed terms.settings terms.level, .done, []⟩ := by
  simp only [Operation.perform, finds.setup_eq]

theorem Misses.perform_eq (misses : Misses facility.configuration given fault) :
    (Operation.setup given).perform facility = ⟨facility.asked, .misconfigured fault, []⟩ := by
  simp only [Operation.perform, misses.setup_eq]

theorem perform_setup_done_iff (facility : Facility) (given : Option String) :
    ((Operation.setup given).perform facility).answer = .done ↔
      ∃ terms, Finds facility.configuration given terms := by
  rcases finds_or_misses facility.configuration given with ⟨terms, finds⟩ | ⟨fault, misses⟩
  · rw [finds.perform_eq]
    exact iff_of_true rfl ⟨terms, finds⟩
  · rw [misses.perform_eq]
    exact iff_of_false nofun fun ⟨terms, finds⟩ => finds.not_misses misses

theorem perform_setup_misconfigured_iff (facility : Facility) (given : Option String)
    (fault : SetupFault) :
    ((Operation.setup given).perform facility).answer = .misconfigured fault ↔
      Misses facility.configuration given fault := by
  rcases finds_or_misses facility.configuration given with ⟨terms, finds⟩ | ⟨found, misses⟩
  · rw [finds.perform_eq]
    exact iff_of_false nofun finds.not_misses
  · rw [misses.perform_eq]
    refine ⟨fun same => ?_, fun other => congrArg Answer.misconfigured (misses.fault_eq other)⟩
    cases same
    exact misses

/-- **What is no setup that succeeds leaves the log arranged as it was.** -/
theorem arrangement_perform (facility : Facility) (operation : Operation)
    (other : ∀ given terms, operation = .setup given → ¬ Finds facility.configuration given terms) :
    (operation.perform facility).facility.arrangement = facility.arrangement := by
  cases operation with
  | setup given =>
    rcases finds_or_misses facility.configuration given with ⟨terms, finds⟩ | ⟨fault, misses⟩
    · exact absurd finds (other given terms rfl)
    · rw [misses.perform_eq]
      rfl
  | emit logger entry =>
    simp only [Operation.perform]
    split <;> rfl
  | enter _ | drop | redirect _ _ | clearCookies _ | fail _ => rfl

/-- An operation is a setup that finds all it needs, or leaves the log arranged as it was. -/
theorem perform_cases (facility : Facility) (operation : Operation) :
    (∃ given terms, operation = .setup given ∧ Finds facility.configuration given terms) ∨
      (∀ given terms, operation = .setup given → ¬ Finds facility.configuration given terms) ∧
        (operation.perform facility).facility.arrangement = facility.arrangement := by
  by_cases found : ∃ given terms, operation = .setup given ∧
      Finds facility.configuration given terms
  · exact .inl found
  · have other : ∀ given terms, operation = .setup given →
        ¬ Finds facility.configuration given terms :=
      fun given terms same finds => found ⟨given, terms, same, finds⟩
    exact .inr ⟨other, arrangement_perform facility operation other⟩

/-- **What becomes of an entry that is sent through a log arranged for terms.** -/
theorem Arrangement.Serves.emit_eq {logger : String} {entry : Entry} {lines : List Line}
    (serves : facility.arrangement.Serves terms) (taken : facility.takes logger entry.level = true)
    (written : facility.emit logger entry = .ok lines) :
    lines = (Line.ofRecord? (facility.recordOf logger entry) ⟨true⟩).toList ∧
      (facility.recordOf logger entry).service =
        some ⟨terms.settings.appName, terms.settings.environment⟩ ∧
      ∀ field ∈ (facility.recordOf logger entry).fields, field.1 ≠ Service.fieldName := by
  obtain ⟨stamp, alone⟩ := serves.stamped entry.level (shownLogger logger) entry.message
  unfold emit at written
  rw [if_pos taken] at written
  split at written
  · cases written
  · rename_i free
    cases written
    have handlers : facility.handlers = [⟨true⟩] := serves.handlers
    refine ⟨?_, stamp, fun field inside => ?_⟩
    · rw [handlers, List.filterMap_cons]
      cases Line.ofRecord? (facility.recordOf logger entry) ⟨true⟩ <;> rfl
    · rcases List.mem_append.mp inside with made | added
      · exact alone field made
      -- The record bears a stamp, so a field of the entry in its place would have been refused.
      · intro same
        refine List.find?_eq_none.mp free field.1 (List.mem_map_of_mem added) ?_
        have borne : (facility.madeFor logger entry).service.isSome = true := by
          rw [show (facility.madeFor logger entry).service = _ from stamp]
          rfl
        unfold reserves
        rw [same, borne]
        simp

theorem Unhindered.find?_eq_none {logger : String} {entry : Entry}
    (free : facility.Unhindered logger entry) :
    (entry.fields.map Prod.fst).find? (reserves (facility.madeFor logger entry)) = none := by
  rw [List.find?_eq_none]
  intro key named
  obtain ⟨field, inside, rfl⟩ := List.mem_map.mp named
  obtain ⟨part, service, made⟩ := free.unreserved field inside
  have new : (facility.madeFor logger entry).fields.lookup field.1 = none := by
    rw [List.lookup_eq_none_iff]
    exact fun other inside => bne_iff_ne.mpr fun same => made (same ▸ List.mem_map_of_mem inside)
  simp [reserves, part, service, new]

/-- **What is taken and not hindered is written in one line**, which tells all that the filter leaves of
its record. -/
theorem Arrangement.Serves.emit_unhindered {logger : String} {entry : Entry}
    (serves : facility.arrangement.Serves terms) (taken : facility.takes logger entry.level = true)
    (free : facility.Unhindered logger entry) :
    ∃ line, facility.emit logger entry = .ok [line] ∧
      line.Tells (facility.recordOf logger entry).hideSecrets.2
        ⟨terms.settings.appName, terms.settings.environment⟩ := by
  have stamp := (serves.stamped entry.level (shownLogger logger) entry.message).1
  have passes : ∃ line, Line.written? (facility.recordOf logger entry).hideSecrets.2 = some line ∧
      line.Tells (facility.recordOf logger entry).hideSecrets.2 _ :=
    Line.written?_of_unobstructed stamp free.unobstructed
  obtain ⟨line, written, tells⟩ := passes
  refine ⟨line, ?_, tells⟩
  have handlers : facility.handlers = [⟨true⟩] := serves.handlers
  have passed : Line.ofRecord? (facility.recordOf logger entry) ⟨true⟩ = some line := written
  unfold emit
  rw [if_pos taken, free.find?_eq_none]
  show Except.ok (facility.handlers.filterMap _) = _
  rw [handlers, List.filterMap_cons, passed]
  rfl

end Operations

/-! ### Whole runs -/

/-- A log after operations. -/
def after (facility : Facility) (operations : List Operation) : Facility :=
  operations.foldl (fun facility operation => (operation.perform facility).facility) facility

/-- What an operation would answer after others. -/
def answerTo (facility : Facility) (before : List Operation) (operation : Operation) : Answer :=
  (operation.perform (facility.after before)).answer

/-- What a log was set up with last: nothing at first, then whatever the latest setup has found that
has found all it needs. -/
inductive LastTerms (started : Facility) : List Operation → Option Terms → Prop where
  | start : LastTerms started [] none
  | setUp {operations : List Operation} {given : Option String} {terms : Terms}
      (finds : Finds (started.after operations).configuration given terms) :
      LastTerms started (operations ++ [.setup given]) (some terms)
  | passed {operations : List Operation} {operation : Operation} {last : Option Terms}
      (earlier : LastTerms started operations last)
      (other : ∀ given terms, operation = .setup given →
        ¬ Finds (started.after operations).configuration given terms) :
      LastTerms started (operations ++ [operation]) last

section Runs

variable {started : Facility} {operations : List Operation} {last : Option Terms} {terms : Terms}

theorem after_append (started : Facility) (first second : List Operation) :
    started.after (first ++ second) = (started.after first).after second :=
  List.foldl_append

theorem after_concat (started : Facility) (operations : List Operation) (operation : Operation) :
    started.after (operations ++ [operation]) =
      (operation.perform (started.after operations)).facility :=
  after_append started operations [operation]

/-- **The steps of a run.** Each operation is performed on the log that those before it left. -/
theorem performAll_getElem? (started : Facility) (before : List Operation) (operation : Operation)
    (rest : List Operation) :
    (started.performAll (before ++ operation :: rest))[before.length]? =
      some (operation.perform (started.after before)) := by
  induction before generalizing started with
  | nil => rfl
  | cons first between ih => exact ih (first.perform started).facility

theorem LastTerms.concat (earlier : LastTerms started operations last) (operation : Operation) :
    LastTerms started (operations ++ [operation]) last ∨
      ∃ terms, LastTerms started (operations ++ [operation]) (some terms) := by
  rcases perform_cases (started.after operations) operation with ⟨given, terms, rfl, finds⟩ |
      ⟨other, -⟩
  · exact .inr ⟨terms, .setUp finds⟩
  · exact .inl (earlier.passed other)

theorem exists_lastTerms (started : Facility) (operations : List Operation) :
    ∃ last, LastTerms started operations last := by
  induction operations using List.reverseRecOn with
  | nil => exact ⟨none, .start⟩
  | append_singleton operations operation ih =>
    obtain ⟨last, earlier⟩ := ih
    rcases earlier.concat operation with passed | ⟨terms, set⟩
    · exact ⟨last, passed⟩
    · exact ⟨some terms, set⟩

/-- **Until a setup succeeds, the log is arranged as it was at the start.** -/
theorem LastTerms.arrangement_eq (never : LastTerms started operations none) :
    (started.after operations).arrangement = started.arrangement := by
  generalize unset : (none : Option Terms) = last at never
  induction never with
  | start => rfl
  | setUp finds => cases unset
  | passed _ other ih =>
    rw [after_concat, arrangement_perform _ _ other]
    exact ih unset

/-- **From then on, it is arranged for the terms of the last one that succeeded.** -/
theorem LastTerms.serves (last : LastTerms started operations (some terms)) :
    (started.after operations).arrangement.Serves terms := by
  generalize set : some terms = found at last
  induction last with
  | start => cases set
  | setUp finds =>
    cases set
    rw [after_concat, finds.perform_eq]
    exact serves_installed _ terms
  | passed _ other ih =>
    rw [after_concat, arrangement_perform _ _ other]
    exact ih set

/-- Once a setup has succeeded, a log has terms for good. -/
theorem LastTerms.of_finds {before after : List Operation} {given : Option String}
    (finds : Finds (started.after before).configuration given terms) :
    ∃ terms, LastTerms started (before ++ .setup given :: after) (some terms) := by
  induction after using List.reverseRecOn with
  | nil => exact ⟨terms, .setUp finds⟩
  | append_singleton after operation ih =>
    obtain ⟨earlierTerms, earlier⟩ := ih
    rw [← List.cons_append, ← List.append_assoc]
    rcases earlier.concat operation with passed | set
    · exact ⟨earlierTerms, passed⟩
    · exact set

end Runs

/-! ### Safe setups -/

/-- What holds of a log that is set up again and again. -/
structure SafeSetups (started : Facility) : Prop where
  /-- Each operation of a run is performed on the log that those before it have left. -/
  steps : ∀ (before : List Operation) (operation : Operation) (rest : List Operation),
    (started.performAll (before ++ operation :: rest))[before.length]? =
      some (operation.perform (started.after before))
  /-- A setup either succeeds or fails. -/
  ends : ∀ (before : List Operation) (given : Option String),
    started.answerTo before (.setup given) = .done ∨
      ∃ fault, started.answerTo before (.setup given) = .misconfigured fault
  /-- It succeeds exactly if it finds settings in force and a level of the name it asks for. -/
  succeeds_iff : ∀ (before : List Operation) (given : Option String),
    started.answerTo before (.setup given) = .done ↔
      ∃ terms, Finds (started.after before).configuration given terms
  /-- It fails exactly for want of one of them. -/
  fails_iff : ∀ (before : List Operation) (given : Option String) (fault : SetupFault),
    started.answerTo before (.setup given) = .misconfigured fault ↔
      Misses (started.after before).configuration given fault
  /-- One that fails leaves the log arranged as it was. -/
  failed_leaves : ∀ (before : List Operation) (given : Option String) (fault : SetupFault),
    started.answerTo before (.setup given) = .misconfigured fault →
    (started.after (before ++ [.setup given])).arrangement = (started.after before).arrangement
  /-- Every run tells with what the log was set up last, if it was. -/
  told : ∀ operations : List Operation, ∃ last, LastTerms started operations last
  /-- As long as none has succeeded, the log is arranged as it was at the start. -/
  untouched : ∀ operations : List Operation, LastTerms started operations none →
    (started.after operations).arrangement = started.arrangement
  /-- Once one has succeeded, there are terms that the log was set up with last. -/
  set_up : ∀ (before : List Operation) (given : Option String) (rest : List Operation),
    started.answerTo before (.setup given) = .done →
    ∃ terms, LastTerms started (before ++ .setup given :: rest) (some terms)
  /-- The log is arranged for these terms, whatever has happened since. -/
  serves : ∀ (operations : List Operation) (terms : Terms),
    LastTerms started operations (some terms) →
    (started.after operations).arrangement.Serves terms
  /-- An entry that is taken then and goes through is written once at most, as its record, which
  has the service of these terms and no other. -/
  written : ∀ (operations : List Operation) (terms : Terms) (logger : String) (entry : Entry)
    (lines : List Line), LastTerms started operations (some terms) →
    (started.after operations).takes logger entry.level = true →
    (started.after operations).emit logger entry = .ok lines →
    let record := (started.after operations).recordOf logger entry
    lines = (Line.ofRecord? record ⟨true⟩).toList ∧
      record.service = some ⟨terms.settings.appName, terms.settings.environment⟩ ∧
      ∀ field ∈ record.fields, field.1 ≠ Service.fieldName
  /-- One that is taken and not hindered goes through and is written exactly once, in a line that tells
  all that the filter leaves of its record; the log stays as it is. -/
  written_once : ∀ (operations : List Operation) (terms : Terms) (logger : String) (entry : Entry),
    LastTerms started operations (some terms) →
    (started.after operations).takes logger entry.level = true →
    (started.after operations).Unhindered logger entry →
    let record := (started.after operations).recordOf logger entry
    ∃ line, (Operation.emit logger entry).perform (started.after operations) =
        ⟨started.after operations, .done, [line]⟩ ∧
      line.Tells { record with fields := redact record.fields }
        ⟨terms.settings.appName, terms.settings.environment⟩

end SignIn.Log.Facility

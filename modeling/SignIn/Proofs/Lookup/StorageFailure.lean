/-
**Storage failures during a lookup.**

A failure of the database is raised while a statement is carried out or while its result is read.
Only the first is hidden from the caller of a lookup:

* `readUser_eq_storage_iff`, `Way.conclude_eq_storage_iff`: a storage failure passes the directory,
  and then the lookup, exactly when it was raised while the result was read;
* `storage_failure_hidden_iff`: so over every storage, a storage failure is hidden exactly when it
  was raised while the statement was carried out.
-/

import SignIn.Proofs.Lookup

namespace SignIn

/-- When a failure is raised: while a statement is carried out, or while its result is read. -/
inductive Stage where
  | execution
  | reading

/-- The reply of a storage in which a failure is raised. -/
def Reply.raised {α : Type} (failure : Failure) : Stage → Reply α
  | .execution => .refused failure
  | .reading => .broken failure

theorem Reply.raised_eq_broken_iff {α : Type} {failure : Failure} {stage : Stage} :
    (Reply.raised failure stage : Reply α) = .broken failure ↔ stage = .reading := by
  cases stage with
  | execution => exact iff_of_false (fun same => nomatch same) nofun
  | reading => exact iff_of_true rfl rfl

/-- Two failures that a caller cannot tell apart: they belong to the same kinds and show the same
text. -/
def Failure.LooksLike (first second : Failure) : Prop :=
  first.lineage = second.lineage ∧ first.message? = second.message?

namespace Lookup

/-- What a principal is looked up by. -/
inductive Key where
  | email (address : String)
  | id (value : Uuid)

namespace Key

/-- The way of looking up by a key. -/
def way : Key → Way
  | email address => Way.email address
  | id value => Way.id value

/-- The statement that asks for the row with a key. -/
def statement : Key → Statement
  | email address => .userByEmail address
  | id value => .userById value

section Asking

variable {m : Type → Type} [Functor m] {α : Type}

/-- Asks a directory for the user with a key. -/
def find (directory : Directory m α) : Key → m (Except Failure (Option α))
  | email address => directory.findByEmail address
  | id value => directory.findById value

/-- Looks up the user with a key. -/
def lookUp (directory : Directory m α) : Key → m (Report α)
  | email address => byEmail directory address
  | id value => byId directory value

end Asking

variable {σ : Type} (key : Key)

/-- A directory over a storage reads the reply to the statement. -/
theorem find_ofStorage (storage : Storage (StateM σ)) (state : σ) :
    ((key.find (Directory.ofStorage storage)).run state).1 =
      Directory.readUser key.way.unavailable ((storage.firstRow key.statement).run state).1 := by
  cases key <;> rfl

/-- A database replies to the statement with the first row that has the cell asked for. -/
theorem firstRow_storage (database : Database) :
    ((Database.storage.firstRow key.statement).run database).1 = key.way.reply database := by
  cases key with
  | email address => exact Way.reply_of_query rfl
  | id value => exact Way.reply_of_query rfl

/-- A lookup concludes from what the directory says. -/
theorem outcome_lookUp (directory : Directory (StateM σ) User) (state : σ) :
    ((key.lookUp directory).run state).1.outcome =
      key.way.conclude ((key.find directory).run state).1 := by
  cases key with
  | email address => exact Way.outcome_reportByEmail address _
  | id value => exact Way.outcome_reportById value _

end Key

/-! ### What passes the directory and the lookup -/

/-- **A storage failure passes the directory exactly when the result could not be read.** -/
theorem readUser_eq_storage_iff {message : String} {reply : Reply (Option Row)}
    {fault : StorageFault} :
    Directory.readUser message reply = .error (.storage fault) ↔
      reply = .broken (.storage fault) := by
  constructor
  · intro passed
    match reply with
    | .refused failure => cases failure <;> cases passed
    | .broken failure => exact congrArg Reply.broken (Except.error.inj passed)
    | .answer none => cases passed
    -- What a row fails with is no failure of the storage.
    | .answer (some row) =>
      cases decoded : User.ofRow row with
      | ok user =>
        rw [Directory.readUser, decoded] at passed
        cases passed
      | error failure =>
        obtain ⟨field, defect, rfl, -⟩ := User.undecodable_of_ofRow decoded
        rw [Directory.readUser, decoded] at passed
        cases defect <;> cases passed
  · rintro rfl
    rfl

/-- **A storage failure passes a lookup exactly when it passed the directory.** -/
theorem Way.conclude_eq_storage_iff {way : Way} {answer : Except Failure (Option User)}
    {fault : StorageFault} :
    way.conclude answer = .error (.storage fault) ↔ answer = .error (.storage fault) := by
  constructor
  · intro passed
    match answer with
    | .ok (some _) | .ok none => cases passed
    | .error failure =>
      have same : failure = .storage fault := by
        cases failure with
        | storage _ => exact Except.error.inj passed
        | _ => cases passed
      rw [same]
  · rintro rfl
    rfl

/-! ### What is hidden -/

/-- The directory reports a failure as its own, which says no more than that it could not be asked. -/
def HiddenByDirectory (answer : Except Failure (Option User)) : Prop :=
  ∃ fault, answer = .error (.gateway fault) ∧ fault.name = "GatewayError"

/-- A lookup ends with a failure that shows one text only and cannot be told from any other
unauthorized failure, such as that of an unknown user or of a row that does not decode. -/
def HiddenByLookup (outcome : Except Failure User) : Prop :=
  ∃ failure, outcome = .error failure ∧ failure.message? = some "Unauthorized" ∧
    ∀ reason cause, failure.LooksLike (.unauthorized reason cause)

theorem hiddenByLookup_unauthorized (reason : String) (cause : Option GatewayFault) :
    HiddenByLookup (.error (.unauthorized reason cause)) :=
  ⟨_, rfl, rfl, fun _ _ => ⟨rfl, rfl⟩⟩

theorem not_hiddenByDirectory_storage (fault : StorageFault) :
    ¬ HiddenByDirectory (.error (.storage fault)) := by
  rintro ⟨_, reported, -⟩
  cases reported

theorem not_hiddenByLookup_storage (fault : StorageFault) :
    ¬ HiddenByLookup (.error (.storage fault)) := by
  rintro ⟨_, ended, text, -⟩
  cases ended
  cases text

section Raised

variable {message : String} {fault : StorageFault} {stage : Stage} {way : Way}

theorem readUser_reading : Directory.readUser message (.raised (.storage fault) .reading) =
    .error (.storage fault) :=
  readUser_eq_storage_iff.mpr rfl

/-- The directory hides what is raised while the statement is carried out. -/
theorem hiddenByDirectory_raised_iff :
    HiddenByDirectory (Directory.readUser message (.raised (.storage fault) stage)) ↔
      stage = .execution := by
  cases stage with
  | execution => exact iff_of_true ⟨_, rfl, rfl⟩ rfl
  | reading =>
    rw [readUser_reading]
    exact iff_of_false (not_hiddenByDirectory_storage fault) nofun

/-- A lookup hides what the directory hides. -/
theorem hiddenByLookup_raised_iff :
    HiddenByLookup (way.conclude (Directory.readUser message (.raised (.storage fault) stage))) ↔
      stage = .execution := by
  cases stage with
  | execution =>
    have unauthorized :
        way.conclude (Directory.readUser message (.raised (.storage fault) .execution)) =
          .error (way.missing (some (.unavailable message))) := rfl
    rw [unauthorized]
    exact iff_of_true (hiddenByLookup_unauthorized _ _) rfl
  | reading =>
    rw [Way.conclude_eq_storage_iff.mpr readUser_reading]
    exact iff_of_false (not_hiddenByLookup_storage fault) nofun

end Raised

/-- **A storage failure during a lookup is hidden exactly when it was raised while the statement
was carried out**; one that was raised while the result was read comes out as it is. -/
theorem storage_failure_hidden_iff {σ : Type} (storage : Storage (StateM σ)) (state : σ) (key : Key)
    (fault : StorageFault) (stage : Stage)
    (raised : ((storage.firstRow key.statement).run state).1 = .raised (.storage fault) stage) :
    let directory := Directory.ofStorage storage
    let answer := ((key.find directory).run state).1
    let outcome := ((key.lookUp directory).run state).1.outcome
    (HiddenByDirectory answer ↔ stage = .execution) ∧
      (HiddenByLookup outcome ↔ stage = .execution) ∧
      (answer = .error (.storage fault) ↔ stage = .reading) ∧
      (outcome = .error (.storage fault) ↔ stage = .reading) := by
  intro directory answer outcome
  have read : answer = Directory.readUser key.way.unavailable (.raised (.storage fault) stage) := by
    rw [← raised]
    exact key.find_ofStorage storage state
  have concluded : outcome = key.way.conclude answer := key.outcome_lookUp directory state
  have passed : answer = .error (.storage fault) ↔ stage = .reading := by
    rw [read, readUser_eq_storage_iff, Reply.raised_eq_broken_iff]
  refine ⟨?_, ?_, passed, ?_⟩
  · rw [read]
    exact hiddenByDirectory_raised_iff
  · rw [concluded, read]
    exact hiddenByLookup_raised_iff
  · rw [concluded, Way.conclude_eq_storage_iff, passed]

/-- That the database refuses the statement is hidden from who asks for a user by identifier. -/
theorem refused_statement_hidden :
    let script : Storage.Script :=
      ⟨fun _ => .refused (.storage .operational), fun _ => .answer none, fun _ => .answer .null,
        fun _ => .ok 0⟩
    let directory := Directory.ofStorage (Storage.scripted script)
    let key := Key.id (Uuid.ofNat 7)
    HiddenByDirectory ((key.find directory).run []).1 ∧
      HiddenByLookup ((key.lookUp directory).run []).1.outcome := by
  intro script directory key
  obtain ⟨byDirectory, byLookup, -⟩ := storage_failure_hidden_iff (Storage.scripted script) [] key
    .operational .execution rfl
  exact ⟨byDirectory.mpr rfl, byLookup.mpr rfl⟩

/-- That it fails while the row is read is not hidden: its failure comes out of the lookup. -/
theorem reading_failure_escapes :
    let script : Storage.Script :=
      ⟨fun _ => .broken (.storage .operational), fun _ => .answer none, fun _ => .answer .null,
        fun _ => .ok 0⟩
    let directory := Directory.ofStorage (Storage.scripted script)
    let answer := (((Key.email "a@b.c").find directory).run []).1
    let outcome := (((Key.email "a@b.c").lookUp directory).run []).1.outcome
    ¬ HiddenByDirectory answer ∧ ¬ HiddenByLookup outcome ∧
      outcome = .error (.storage .operational) :=
  ⟨not_hiddenByDirectory_storage .operational, not_hiddenByLookup_storage .operational, rfl⟩

end Lookup

end SignIn

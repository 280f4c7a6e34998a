/-
**The check for administrators.**

Whatever happens between the statement and the flag, the check allows only what is stored as an
administrator:

* `readFlag_eq_true_iff`, `readFlag_eq_error_iff`: which replies of a storage grant, and what is
  raised on the way from which of the others;
* `reportAdmin_failClosed`: what the check makes of an answer of the directory;
* `admin_check_fail_closed`: so over every storage and behind every directory, the check allows
  exactly what is granted, only what breaks the request off escapes, one question is asked, and one
  warning is written exactly if a failure was swallowed.
-/

import SignIn.Lookup
import SignIn.Proofs.User.Row

namespace SignIn

/-- How many warnings a report carries. -/
def Report.warnings {α : Type} (report : Report α) : Nat :=
  report.entries.countP fun entry => entry.level == .warning

theorem Value.isTrue_iff {value : Value} : value.isTrue = true ↔ value = .bool true := by
  cases value with
  | bool flag => simp [Value.isTrue]
  | _ => exact iff_of_false (fun holds => nomatch holds) (fun same => nomatch same)

namespace Lookup

/-! ### From the reply to the flag -/

/-- The replies that say that a principal is an administrator: there is a row, and its first value
is the truth value *true* or the integer 1. -/
inductive Grants : Reply (Option (List Value)) → Prop where
  | truth (rest : List Value) : Grants (.answer (some (.bool true :: rest)))
  | one (rest : List Value) : Grants (.answer (some (.int 1 :: rest)))

/-- What is raised on the way from a reply to the flag. -/
inductive Raises : Reply (Option (List Value)) → Failure → Prop where
  | execution (failure : Failure) : Raises (.refused failure) failure
  | reading (failure : Failure) : Raises (.broken failure) failure
  | emptyRow : Raises (.answer (some [])) (.general .indexOutOfRange "tuple index out of range")
  | decoding {value : Value} {shown : String} (rest : List Value)
      (noFlag : ∀ flag, ¬ User.IsFlag value flag) (told : value.shown? = some shown) :
      Raises (.answer (some (value :: rest)))
        (.gateway (.undecodable "admin" ("expected boolean, got " ++ shown)))
  | showing {value : Value} (rest : List Value) (unshowable : value.Unshowable) :
      Raises (.answer (some (value :: rest))) User.unshownFailure

section Reading

variable {value : Value} {rest : List Value} {reply : Reply (Option (List Value))}

theorem grants_iff_of_isFlag {flag : Bool} (stands : User.IsFlag value flag) :
    Grants (.answer (some (value :: rest))) ↔ flag = true := by
  constructor
  · rintro (_ | _)
    · cases stands
      rfl
    · cases stands
      rfl
  · rintro rfl
    cases stands with
    | truth => exact Grants.truth rest
    | one => exact Grants.one rest

theorem readFlag_of_isFlag {flag : Bool} (stands : User.IsFlag value flag) :
    Directory.readFlag (.answer (some (value :: rest))) = .ok (.bool flag) := by
  simp only [Directory.readFlag, User.decodeColumn, User.decodeFlag_of_isFlag stands]
  rfl

theorem readFlag_of_noFlag (noFlag : ∀ flag, ¬ User.IsFlag value flag) :
    Directory.readFlag (.answer (some (value :: rest))) =
      .error (User.undecodable "admin" (User.flagDefect value)) := by
  simp only [Directory.readFlag, User.decodeColumn, User.decodeFlag_of_noFlag noFlag]
  rfl

/-- **The flag is *true* exactly if the reply grants.** -/
theorem readFlag_eq_true_iff : Directory.readFlag reply = .ok (.bool true) ↔ Grants reply := by
  match reply with
  | .refused _ | .broken _ | .answer none | .answer (some []) =>
    exact iff_of_false (fun read => nomatch read) (fun grants => nomatch grants)
  -- Only here is a value decoded: it stands for a flag, or it says nothing.
  | .answer (some (value :: rest)) =>
    by_cases stands : ∃ flag, User.IsFlag value flag
    · obtain ⟨flag, stands⟩ := stands
      rw [readFlag_of_isFlag stands, grants_iff_of_isFlag stands]
      simp
    · have noFlag := not_exists.mp stands
      rw [readFlag_of_noFlag noFlag]
      refine iff_of_false (fun read => nomatch read) ?_
      rintro (_ | _)
      · exact noFlag true (.truth true)
      · exact noFlag true .one

/-- **A failure comes out of the directory exactly if it is raised on the way.** -/
theorem readFlag_eq_error_iff {failure : Failure} :
    Directory.readFlag reply = .error failure ↔ Raises reply failure := by
  constructor
  · intro failed
    match reply with
    | .refused _ =>
      cases failed
      exact Raises.execution failure
    | .broken _ =>
      cases failed
      exact Raises.reading failure
    | .answer none => cases failed
    | .answer (some []) =>
      cases failed
      exact Raises.emptyRow
    | .answer (some (value :: rest)) =>
      by_cases stands : ∃ flag, User.IsFlag value flag
      · obtain ⟨flag, stands⟩ := stands
        rw [readFlag_of_isFlag stands] at failed
        cases failed
      · have noFlag := not_exists.mp stands
        rw [readFlag_of_noFlag noFlag, User.flagDefect] at failed
        split at failed
        · rename_i told
          cases failed
          exact Raises.decoding rest noFlag told
        · rename_i hidden
          rw [User.undecodable_unshown] at failed
          cases failed
          exact Raises.showing rest (value.shown?_eq_none_iff.mp hidden)
  · intro raises
    cases raises with
    | execution | reading | emptyRow => rfl
    | decoding rest noFlag told =>
      rw [readFlag_of_noFlag noFlag, User.flagDefect, told]
      rfl
    | showing rest unshowable =>
      have hidden := (Value.shown?_eq_none_iff _).mpr unshowable
      rw [readFlag_of_noFlag (User.not_isFlag_of_unshowable unshowable),
        User.flagDefect_eq_unshown_iff.mpr hidden, User.undecodable_unshown]

end Reading

/-! ### From the flag to the verdict -/

/-- A report that allows exactly what is granted: it denies whatever else comes, a failure that may
be handled included, and only a failure that may not comes out, as it was raised. A warning is
written once, exactly if a failure was swallowed. -/
structure FailClosed (grants : Prop) (raises : Failure → Prop) (report : Report Bool) : Prop where
  allows_iff : report.outcome = .ok true ↔ grants
  denies_iff : report.outcome = .ok false ↔
    ¬ grants ∧ ∀ failure, raises failure → failure.isOrdinary = true
  escapes_iff : ∀ failure, report.outcome = .error failure ↔
    raises failure ∧ failure.isOrdinary = false
  warns_iff : report.warnings = 1 ↔ ∃ failure, raises failure ∧ failure.isOrdinary = true
  quiet_iff : report.warnings = 0 ↔ ∀ failure, raises failure → failure.isOrdinary = false

section Verdict

variable (id : Uuid)

/-- An answer that is a value is no warning, and only *true* itself allows. -/
theorem reportAdmin_ok (value : Value) :
    (reportAdmin id (.ok value)).outcome = .ok value.isTrue ∧
      (reportAdmin id (.ok value)).warnings = 0 := by
  cases value <;> exact ⟨rfl, rfl⟩

theorem reportAdmin_swallows {failure : Failure} (ordinary : failure.isOrdinary = true) :
    (reportAdmin id (.error failure)).outcome = .ok false ∧
      (reportAdmin id (.error failure)).warnings = 1 := by
  have denied : reportAdmin id (.error failure) = ⟨.ok false, [⟨.warning,
      "Admin check failed, denying",
      [("user_id", .text id.text), ("error", .text failure.name)]⟩]⟩ := if_pos ordinary
  rw [denied]
  exact ⟨rfl, rfl⟩

theorem reportAdmin_passes {failure : Failure} (extraordinary : failure.isOrdinary = false) :
    (reportAdmin id (.error failure)).outcome = .error failure ∧
      (reportAdmin id (.error failure)).warnings = 0 := by
  have passed : reportAdmin id (.error failure) = .silent (.error failure) :=
    if_neg (ne_true_of_eq_false extraordinary)
  rw [passed]
  exact ⟨rfl, rfl⟩

/-- **The check is fail-closed on every answer of a directory**: only *true* itself is granted. -/
theorem reportAdmin_failClosed (answer : Except Failure Value) :
    FailClosed (answer = .ok (.bool true)) (fun failure => answer = .error failure)
      (reportAdmin id answer) := by
  cases answer with
  | ok value =>
    obtain ⟨outcome, quiet⟩ := reportAdmin_ok id value
    constructor
    · simp [outcome, Value.isTrue_iff]
    · simp [outcome, ← Value.isTrue_iff]
    · simp [outcome]
    · simp [quiet]
    · simp [quiet]
  | error failure =>
    cases ordinary : failure.isOrdinary with
    | true =>
      obtain ⟨outcome, warned⟩ := reportAdmin_swallows id ordinary
      constructor
      · simp [outcome]
      · simp [outcome, ordinary]
      · simp [outcome, ordinary]
      · simp [warned, ordinary]
      · simp [warned, ordinary]
    | false =>
      obtain ⟨outcome, quiet⟩ := reportAdmin_passes id ordinary
      constructor
      · simp [outcome]
      · simp [outcome, ordinary]
      · intro other
        rw [outcome, Except.error.injEq, Except.error.injEq]
        exact ⟨fun same => ⟨same, same ▸ ordinary⟩, fun both => both.1⟩
      · simp [quiet, ordinary]
      · simp [quiet, ordinary]

end Verdict

/-! ### The check over a storage and behind a directory -/

/-- The verdict on a reply is fail-closed. -/
theorem verdict_failClosed (id : Uuid) (reply : Reply (Option (List Value))) :
    FailClosed (Grants reply) (Raises reply) (reportAdmin id (Directory.readFlag reply)) := by
  have closed := reportAdmin_failClosed id (Directory.readFlag reply)
  simp only [readFlag_eq_true_iff, readFlag_eq_error_iff] at closed
  exact closed

/-- A number that equals 1 but is no integer denies. -/
example (id : Uuid) :
    (reportAdmin id (Directory.readFlag (.answer (some [.float "1.0"])))).outcome = .ok false :=
  rfl

/-- **The check for administrators is fail-closed.** Over every storage it allows exactly if the
reply to its statement grants; behind every directory, exactly if the answer is *true* itself. It
asks one question, and of a user only the identifier counts. -/
theorem admin_check_fail_closed :
    (∀ {σ : Type} (storage : Storage (StateM σ)) (subject : Subject) (state : σ),
      let replied := (storage.firstValues (.adminById subject.uuid)).run state
      let checked := (isAdmin (Directory.ofStorage storage) subject).run state
      FailClosed (Grants replied.1) (Raises replied.1) checked.1 ∧ checked.2 = replied.2) ∧
    (∀ {σ α : Type} (directory : Directory (StateM σ) α) (subject : Subject) (state : σ),
      let answered := (directory.adminFlag subject.uuid).run state
      let checked := (isAdmin directory subject).run state
      FailClosed (answered.1 = .ok (.bool true)) (fun failure => answered.1 = .error failure)
        checked.1 ∧ checked.2 = answered.2) ∧
    (∀ (script : Storage.Script) (subject : Subject) (sent : List Statement),
      ((isAdmin (Directory.ofStorage (Storage.scripted script)) subject).run sent).2 =
        sent ++ [.adminById subject.uuid]) ∧
    (∀ {α : Type} (script : Directory.Script α) (subject : Subject)
      (asked : List Directory.Question),
      ((isAdmin (Directory.scripted script) subject).run asked).2 =
        asked ++ [.adminFlag subject.uuid]) ∧
    ∀ {m : Type → Type} [Functor m] {α : Type} (directory : Directory m α) (user : User),
      isAdmin directory (.user user) = isAdmin directory (.id user.id) := by
  refine ⟨?_, ?_, fun _ _ _ => rfl, fun _ _ _ => rfl, fun _ _ => rfl⟩
  · intro σ storage subject state replied checked
    have verdict : checked = (reportAdmin subject.uuid (Directory.readFlag replied.1), replied.2) :=
      rfl
    rw [verdict]
    exact ⟨verdict_failClosed subject.uuid replied.1, rfl⟩
  · intro σ α directory subject state answered checked
    have verdict : checked = (reportAdmin subject.uuid answered.1, answered.2) := rfl
    rw [verdict]
    exact ⟨reportAdmin_failClosed subject.uuid answered.1, rfl⟩

end Lookup

end SignIn

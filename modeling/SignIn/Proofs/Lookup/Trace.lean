/-
**What the log tells of a row that is no user.**

A lookup that finds a row which is no user logs one entry: what key it asked with, and the text of the
fault (`FailsAt.report_eq`). Where a value cannot be shown, it fails with that and logs nothing. Two such
lookups, with one key and one column at fault, are compared:

* `exists_failsAt_iff`: over a database, such a lookup is one that ends with the reason for it;
* `FailsAt.entries_eq_iff`: two of them log the same exactly if the same is told of what was found;
* `Cell.shown?_eq_iff`: cells of one type that are shown alike are the same;
* `failed_lookup_log_tells`: so they log the same for values of one kind that stand for no identifier or
  for no address, and in the column of a flag only if the two cells are the same.
-/

import SignIn.Proofs.Lookup.Agreement
import SignIn.Proofs.Text.Quoted
import SignIn.Proofs.User.Defect

namespace SignIn

/-- **Cells of one type that are shown alike are the same.** -/
theorem Cell.shown?_eq_iff {first second : Cell}
    (type : first.value.typeName = second.value.typeName) :
    first.value.shown? = second.value.shown? ↔ first = second := by
  refine ⟨fun same => ?_, fun same => same ▸ rfl⟩
  cases first with
  | null =>
    cases second with
    | null => rfl
    | _ => simp [value, Value.typeName] at type
  | int number =>
    cases second with
    | int other =>
      rw [shown?_int, shown?_int, Option.some.injEq] at same
      rw [Int64.toInt_inj.mp (Int.repr_injective same)]
    | _ => simp [value, Value.typeName] at type
  | real shortest =>
    cases second with
    | real other => exact congrArg real (Option.some.inj same)
    | _ => simp [value, Value.typeName] at type
  | text content =>
    cases second with
    | text other => rw [Text.quoted_injective (Option.some.inj same)]
    | _ => simp [value, Value.typeName] at type
  | blob content =>
    cases second with
    | blob other => rw [Text.quotedBytes_injective (Option.some.inj same)]
    | _ => simp [value, Value.typeName] at type

namespace Lookup

namespace Key

/-- What a key is logged as: the mask of an address, or the text of an identifier. -/
def logged : Key → String × Value
  | email address => ("email", .text (maskEmail address))
  | id value => ("user_id", .text value.text)

/-- The entry that is logged for a fault of the directory. -/
def entryOf (key : Key) (fault : GatewayFault) : Log.Entry :=
  ⟨.info, "User lookup failed", [key.logged, ("error", .text fault.message)]⟩

theorem entryOf_eq_iff {key : Key} {first second : GatewayFault} :
    key.entryOf first = key.entryOf second ↔ first.message = second.message := by
  simp [entryOf]

/-- A lookup passes a failure that is not the directory's own on, and logs nothing. -/
theorem lookUp_of_unshown {σ : Type} {key : Key} {directory : Directory (StateM σ) User} {state : σ}
    (failed : ((key.find directory).run state).1 = .error User.unshownFailure) :
    ((key.lookUp directory).run state).1 = .silent (.error User.unshownFailure) := by
  cases key with
  | email address => exact congrArg (reportByEmail address) failed
  | id value => exact congrArg (reportById value) failed

/-- A lookup reports a fault of the directory as the reason that belongs to it, and logs it. -/
theorem lookUp_of_fault {σ : Type} {key : Key} {directory : Directory (StateM σ) User} {state : σ}
    {fault : GatewayFault} (failed : ((key.find directory).run state).1 = .error (.gateway fault)) :
    ((key.lookUp directory).run state).1 =
      ⟨.error (.unauthorized (if fault.isMapping then key.way.invalid else key.way.notFound)
        (some fault)), [key.entryOf fault]⟩ := by
  cases key with
  | email address =>
    exact congrArg (reportByEmail address) failed
  | id value =>
    exact congrArg (reportById value) failed

end Key

/-- A lookup by a key finds a row which is no user because of one part; `found` is what stands in the
column of that part, if there is one. -/
def FailsAt {σ : Type} (storage : Storage (StateM σ)) (state : σ) (key : Key) (field : User.Field)
    (found : Option Value) : Prop :=
  ∃ row, ((storage.firstRow key.statement).run state).1 = .answer (some row) ∧
    User.FirstUnreadable row field ∧ row.lookup field.column = found

section Runs

variable {σ τ : Type} {storage : Storage (StateM σ)} {other : Storage (StateM τ)} {state : σ}
  {otherState : τ} {key : Key} {field : User.Field} {found otherFound : Option Value}

/-- The directory over a storage fails with what is told of the column at fault. -/
theorem FailsAt.find_eq (fails : FailsAt storage state key field found) :
    ((key.find (Directory.ofStorage storage)).run state).1 =
      .error (User.undecodable field.column (field.told found)) := by
  obtain ⟨row, replied, first, rfl⟩ := fails
  rw [key.find_ofStorage, replied, Directory.readUser, User.ofRow_of_firstUnreadable first]
  rfl

/-- **A lookup that finds a row which is no user tells the column at fault and what is told of it.** -/
theorem FailsAt.report_eq (fails : FailsAt storage state key field found)
    (shown : field.told found ≠ .unshown) :
    let fault := GatewayFault.undecodable field.column (field.told found).reason
    ((key.lookUp (Directory.ofStorage storage)).run state).1 =
      ⟨.error (.unauthorized key.way.invalid (some fault)), [key.entryOf fault]⟩ := by
  have failed := fails.find_eq
  rw [User.undecodable_of_ne_unshown shown] at failed
  exact Key.lookUp_of_fault failed

/-- **One that would have to show a value which cannot be shown tells nothing.** -/
theorem FailsAt.report_of_unshown (fails : FailsAt storage state key field found)
    (unshown : field.told found = .unshown) :
    ((key.lookUp (Directory.ofStorage storage)).run state).1 =
      .silent (.error User.unshownFailure) := by
  have failed := fails.find_eq
  rw [unshown, User.undecodable_unshown] at failed
  exact Key.lookUp_of_unshown failed

/-- **Two such lookups log the same exactly if the same is told of what was found.** -/
theorem FailsAt.entries_eq_iff (fails : FailsAt storage state key field found)
    (alsoFails : FailsAt other otherState key field otherFound) :
    ((key.lookUp (Directory.ofStorage storage)).run state).1.entries =
        ((key.lookUp (Directory.ofStorage other)).run otherState).1.entries ↔
      field.told found = field.told otherFound := by
  by_cases unshown : field.told found = .unshown
  · rw [fails.report_of_unshown unshown, unshown]
    by_cases alsoUnshown : field.told otherFound = .unshown
    · rw [alsoFails.report_of_unshown alsoUnshown, alsoUnshown]
      exact iff_of_true rfl rfl
    · rw [alsoFails.report_eq alsoUnshown]
      exact iff_of_false nofun (Ne.symm alsoUnshown)
  · rw [fails.report_eq unshown]
    by_cases alsoUnshown : field.told otherFound = .unshown
    · rw [alsoFails.report_of_unshown alsoUnshown, alsoUnshown]
      exact iff_of_false nofun unshown
    · rw [alsoFails.report_eq alsoUnshown, List.singleton_inj, Key.entryOf_eq_iff,
        User.message_undecodable_eq_iff]

/-- **The log of a lookup that finds a row which is no user tells the column at fault and, where a flag
should be, the value that stands there.** One entry is logged, under the mask of the address or the
identifier asked for, unless a value would have to be shown that cannot be: then the lookup fails with
that and logs nothing. Two such lookups for one key that fail at one column log the same exactly if the
same is told of what they found. For values of one kind this is so in the columns of the identifier and
of the address; in the column of a flag it is so only if the values are shown alike, and for two cells of
one type only if they are the same. -/
theorem failed_lookup_log_tells (fails : FailsAt storage state key field found)
    (alsoFails : FailsAt other otherState key field otherFound) :
    let report := ((key.lookUp (Directory.ofStorage storage)).run state).1
    let otherReport := ((key.lookUp (Directory.ofStorage other)).run otherState).1
    let fault := GatewayFault.undecodable field.column (field.told found).reason
    let unshown := (field = .admin ∨ field = .verified) ∧
      ∃ value, found = some value ∧ value.Unshowable
    (¬ unshown → report.outcome = .error (.unauthorized key.way.invalid (some fault)) ∧
        report.entries =
          [⟨.info, "User lookup failed", [key.logged, ("error", .text fault.message)]⟩]) ∧
      (unshown → report.outcome = .error User.unshownFailure ∧ report.entries = []) ∧
      (report.entries = otherReport.entries ↔ field.told found = field.told otherFound) ∧
      (User.SameKind field found otherFound →
        (report.entries = otherReport.entries ↔
          (field = .admin ∨ field = .verified →
            found.bind Value.shown? = otherFound.bind Value.shown?))) ∧
      ∀ cell otherCell : Cell, found = some cell.value → otherFound = some otherCell.value →
        cell.value.typeName = otherCell.value.typeName → field = .admin ∨ field = .verified →
          (report.entries = otherReport.entries ↔ cell = otherCell) := by
  intro report otherReport fault unshown
  have same : report.entries = otherReport.entries ↔ field.told found = field.told otherFound :=
    fails.entries_eq_iff alsoFails
  refine ⟨fun shown => ?_, fun hidden => ?_, same, fun kind => same.trans kind.told_eq_iff, ?_⟩
  · have told := fails.report_eq fun hidden => shown (User.told_eq_unshown_iff.mp hidden)
    exact ⟨congrArg Report.outcome told, congrArg Report.entries told⟩
  · have silent := fails.report_of_unshown (User.told_eq_unshown_iff.mpr hidden)
    exact ⟨congrArg Report.outcome silent, congrArg Report.entries silent⟩
  · rintro cell otherCell rfl rfl type flag
    rw [same, User.told_flag_eq_iff flag, Cell.shown?_eq_iff type]

end Runs

/-! ### Over a database -/

section Database

variable {database : Database} {table : UserTable} {cells : List Cell} {key : Key} {field : User.Field}
  {found : Option Value}

/-- Over a database, the row that counts is the first one with the cell asked for. -/
theorem failsAt_of_first (kept : database.users = some table)
    (column : table.hasColumn key.way.column = true)
    (first : table.FirstWith key.way.column key.way.cell cells)
    (unreadable : User.FirstUnreadable (table.named cells) field)
    (stands : (table.named cells).lookup field.column = found) :
    FailsAt Database.storage database key field found := by
  refine ⟨table.named cells, ?_, unreadable, stands⟩
  rw [key.firstRow_storage, Way.reply, kept]
  simp only [column, if_true, UserTable.firstWith_iff.mp first, Option.map_some]

theorem reply_eq_answer {way : Way} {row : Row}
    (replied : way.reply database = .answer (some row)) :
    ∃ (table : UserTable) (cells : List Cell), row = table.named cells := by
  unfold Way.reply at replied
  split at replied
  · cases replied
  · rename_i table kept
    split at replied
    · obtain ⟨cells, -, named⟩ := Option.map_eq_some_iff.mp (Reply.answer.inj replied)
      exact ⟨table, cells, named.symm⟩
    · cases replied

/-- Over a database, what stands in the column at fault can be shown. -/
theorem FailsAt.told_ne_unshown (fails : FailsAt Database.storage database key field found) :
    field.told found ≠ .unshown := by
  obtain ⟨row, replied, -, rfl⟩ := fails
  rw [key.firstRow_storage] at replied
  obtain ⟨table, cells, rfl⟩ := reply_eq_answer replied
  rw [ne_eq, User.told_eq_unshown_iff]
  rintro ⟨-, value, named, unshowable⟩
  obtain ⟨cell, -, rfl⟩ := UserTable.cell?_of_lookup_named named
  exact cell.shown?_ne_none ((Value.shown?_eq_none_iff _).mpr unshowable)

/-- **Over a database, a lookup finds a row which is no user exactly if it ends with that reason**, and
the column at fault is the one that the failure behind it names. -/
theorem exists_failsAt_iff :
    (∃ found, FailsAt Database.storage database key field found) ↔
      ∃ cause, database.outcome (key.lookUp Database.directory) =
        .error (.unauthorized key.way.invalid (some (.undecodable field.column cause))) := by
  constructor
  · rintro ⟨found, fails⟩
    exact ⟨_, congrArg Report.outcome (fails.report_eq fails.told_ne_unshown)⟩
  · rintro ⟨cause, ended⟩
    generalize same : Except.error _ = ending at ended
    have ends := (key.outcome_lookUp_eq_iff database ending).mp ended
    have causes : ∀ {reason behind}, ending = .error (.unauthorized reason behind) →
        some (.undecodable field.column cause) = behind := fun failed =>
      (Failure.unauthorized.inj (Except.error.inj (same.trans failed))).2
    cases ends with
    | found => cases same
    | invalid kept column first fails =>
      obtain ⟨other, unreadable, failsThere⟩ := User.firstUnreadable_of_ofRow fails
      rw [← Option.some.inj (causes rfl)] at failsThere
      obtain rfl := User.Field.column_injective failsThere.column_eq
      exact ⟨_, failsAt_of_first kept column first unreadable rfl⟩
    | absent | noTable | noColumn => cases causes rfl

end Database

/-- A table with one user, whose identifier and flag are given cells. -/
def oneUser (id admin : Cell) : UserTable :=
  ⟨["id", "email", "admin", "verified"], [[id, .text "alice@b.c", admin, .int 0]], by decide⟩

theorem firstWith_oneUser (id admin : Cell) :
    (oneUser id admin).FirstWith "email" (.text "alice@b.c") [id, .text "alice@b.c", admin, .int 0] := by
  have other : sameColumn "email" "id" = false := by decide
  have same : sameColumn "email" "email" = true := by decide
  refine ⟨[], [], rfl, List.forall_mem_nil _, ?_⟩
  simp [oneUser, UserTable.cell?, other, same]

/-- Two databases in which the identifier of the row has fifteen other bytes, and the flag another value,
cannot be told apart by what is logged. -/
theorem short_identifiers_log_alike :
    let entries := fun table => (((Key.email "alice@b.c").lookUp
      (Directory.ofStorage Database.storage)).run ⟨some table, none⟩).1.entries
    let first := oneUser (.blob (List.replicate 15 0)) (.int 1)
    let second := oneUser (.blob (List.replicate 15 7)) (.text "yes")
    entries first = entries second ∧
      entries first = [⟨.info, "User lookup failed", [("email", .text "al***@b.c"),
        ("error", .text "Cannot decode user column 'id': expected 16 bytes, got 15")]⟩] := by
  intro entries first second
  have failsAt : ∀ (content : List UInt8) (admin : Cell), content.length = 15 →
      FailsAt Database.storage ⟨some (oneUser (.blob content) admin), none⟩ (.email "alice@b.c") .id
        (some (.bytes .string content)) := by
    intro content admin short
    refine failsAt_of_first rfl rfl (firstWith_oneUser _ _)
      ⟨[], _, rfl, List.forall_mem_nil _, ?_⟩ rfl
    rintro ⟨_, _, found, stands⟩
    cases found
    cases stands
    omega
  have kind : User.SameKind .id (some (.bytes .string (List.replicate 15 0)))
      (some (.bytes .string (List.replicate 15 7))) := .found rfl fun _ => rfl
  obtain ⟨told, -, -, same, -⟩ := failed_lookup_log_tells (failsAt (List.replicate 15 0) (.int 1) rfl)
    (failsAt (List.replicate 15 7) (.text "yes") rfl)
  exact ⟨(same kind).mpr nofun, (told (by simp)).2.trans rfl⟩

/-- Two databases with another text where a flag should be can be told apart, for the text is logged. -/
theorem flag_texts_are_logged :
    let database := fun admin : String =>
      Database.mk (some (oneUser (.blob (Uuid.ofNat 7).bytes) (.text admin))) none
    let entries := fun admin => (((Key.email "alice@b.c").lookUp
      (Directory.ofStorage Database.storage)).run (database admin)).1.entries
    (∀ admin, FailsAt Database.storage (database admin) (.email "alice@b.c") .admin
      (some (.text admin))) ∧
      User.SameKind .admin (some (.text "+82-10-1111-2222")) (some (.text "+82-10-3333-4444")) ∧
      entries "+82-10-1111-2222" ≠ entries "+82-10-3333-4444" := by
  intro database entries
  have failsAt : ∀ admin, FailsAt Database.storage (database admin) (.email "alice@b.c") .admin
      (some (.text admin)) := by
    intro admin
    refine failsAt_of_first rfl rfl (firstWith_oneUser _ _)
      ⟨[.id, .email], [.verified], rfl, ?_, ?_⟩ rfl
    · rw [List.forall_mem_cons, List.forall_mem_singleton]
      exact ⟨⟨_, _, rfl, .bytes _ _ (Uuid.ofNat 7).length_bytes⟩, ⟨_, _, rfl, .text (by decide)⟩⟩
    · rintro ⟨_, _, found, stands⟩
      cases found
      cases stands
  refine ⟨failsAt, .found rfl nofun, ?_⟩
  rw [ne_eq, (failsAt _).entries_eq_iff (failsAt _), User.told_flag_eq_iff (Or.inl rfl)]
  exact fun same => absurd (Text.quoted_injective (Option.some.inj same)) (by decide)

end Lookup

end SignIn

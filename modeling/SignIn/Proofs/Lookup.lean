/-
**Looking up principals in a database.**

How a lookup ends depends only on the first row of the user table, in table order, that has the
cell asked for (`Ends`):

* `Way.outcome_eq_iff`: a lookup ends in exactly one way, which can be computed;
* `Ends.email_eq`, `Ends.id_eq`: a user that is found is the one asked for;
* `lookup_exact`: so both lookups are exact over every database, and neither changes it.
-/

import SignIn.Lookup
import SignIn.Proofs.Database.Selection
import SignIn.Proofs.User.Row
import SignIn.Proofs.Value

namespace SignIn

/-- An integer that fits into a machine word is shown. -/
theorem Cell.shown?_int (number : Int64) :
    (Cell.int number).value.shown? = some (toString number.toInt) := by
  have low := Int64.le_toInt number
  have high := Int64.toInt_lt number
  have small : number.toInt.natAbs < 10 ^ 19 := by omega
  show Value.shownInt? number.toInt = _
  rw [Value.shownInt?, Value.hasTooManyDigits_of_small small]
  rfl

/-- **What a cell gives back can always be shown.** -/
theorem Cell.shown?_ne_none (cell : Cell) : cell.value.shown? ≠ none := by
  cases cell with
  | int number =>
    rw [shown?_int]
    nofun
  | null | real _ | text _ | blob _ => nofun

/-- **A field of a row decodes only from the cell that a query compares.** -/
theorem UserTable.cell?_of_decodeField {α : Type} {table : UserTable} {row : List Cell}
    {decode : Value → Except User.Defect α} {field : User.Field} {part : α}
    (decodes : User.decodeField decode (table.named row) field = .ok part) :
    table.hasColumn field.column = true ∧ ∃ cell, table.cell? field.column row = some cell ∧
      decode cell.value = .ok part := by
  obtain ⟨value, named, decoded⟩ := User.decodeField_eq_ok_iff.mp decodes
  obtain ⟨cell, compared, rfl⟩ := cell?_of_lookup_named named
  exact ⟨hasColumn_of_lookup_named named, cell, compared, decoded⟩

/-- **A row that is no user fails as the directory does**, and the failure names a column. -/
theorem UserTable.gateway_of_ofRow {table : UserTable} {row : List Cell} {failure : Failure}
    (failed : User.ofRow (table.named row) = .error failure) :
    ∃ (field : User.Field) (defect : User.Defect),
      failure = .gateway (.undecodable field.column defect.reason) := by
  refine User.gateway_of_ofRow (fun named => ?_) failed
  obtain ⟨cell, -, rfl⟩ := cell?_of_lookup_named named
  exact cell.shown?_ne_none

namespace Lookup

/-- What tells two ways of looking up apart: the column and the cell that is asked for, and the
texts of what can go wrong. -/
structure Way where
  column : String
  cell : Cell
  /-- The reason that is given when no user is found. -/
  notFound : String
  /-- The reason that is given when what is found is no user. -/
  invalid : String
  /-- The text of the fault when the table cannot be asked. -/
  unavailable : String

namespace Way

/-- Looking up by address. -/
def email (email : String) : Way :=
  ⟨"email", .text email, "user not found by email", "invalid user", "User query by email failed"⟩

/-- Looking up by identifier. -/
def id (id : Uuid) : Way :=
  ⟨"id", .blob id.bytes, "User not found by id", "Invalid user", "User query by id failed"⟩

/-- The failure when no user is found, with the fault behind it if there is one. -/
def missing (way : Way) (cause : Option GatewayFault) : Failure :=
  .unauthorized way.notFound cause

end Way

/-- What a failed lookup may fail with: always an unauthorized failure with the text that is always
shown, and the fault behind it belongs to the reason that is given. -/
def Way.FailsWith (way : Way) (failure : Failure) : Prop :=
  failure.message? = some "Unauthorized" ∧
    (failure = .unauthorized way.notFound none ∨
      (∃ fault, failure = .unauthorized way.notFound (some fault) ∧ fault.name = "GatewayError") ∨
      ∃ fault, failure = .unauthorized way.invalid (some fault) ∧
        fault.name = "UserRowDecodeError")

/-- How a lookup ends over a database. Only the first row with the cell counts. -/
inductive Ends (database : Database) (way : Way) : Except Failure User → Prop where
  | found {table : UserTable} {row : List Cell} {user : User} (kept : database.users = some table)
      (column : table.hasColumn way.column = true)
      (first : table.FirstWith way.column way.cell row)
      (decodes : User.ofRow (table.named row) = .ok user) : Ends database way (.ok user)
  | invalid {table : UserTable} {row : List Cell} {fault : GatewayFault}
      (kept : database.users = some table) (column : table.hasColumn way.column = true)
      (first : table.FirstWith way.column way.cell row)
      (fails : User.ofRow (table.named row) = .error (.gateway fault)) :
      Ends database way (.error (.unauthorized way.invalid (some fault)))
  | absent {table : UserTable} (kept : database.users = some table)
      (column : table.hasColumn way.column = true)
      (nowhere : ∀ row ∈ table.rows, table.cell? way.column row ≠ some way.cell) :
      Ends database way (.error (way.missing none))
  | noTable (gone : database.users = none) :
      Ends database way (.error (way.missing (some (.unavailable way.unavailable))))
  | noColumn {table : UserTable} (kept : database.users = some table)
      (column : table.hasColumn way.column = false) :
      Ends database way (.error (way.missing (some (.unavailable way.unavailable))))

/-! ### A lookup ends in one way -/

namespace Way

/-- The reply of a database to the question for the first row. -/
def reply (way : Way) (database : Database) : Reply (Option Row) :=
  match database.users with
  | none => .refused (.storage .operational)
  | some table =>
    if table.hasColumn way.column then
      .answer ((table.rows.find? (table.holds way.column way.cell)).map table.named)
    else .refused (.storage .operational)

/-- How a lookup ends after the directory has answered. -/
def conclude (way : Way) : Except Failure (Option User) → Except Failure User
  | .ok (some user) => .ok user
  | .ok none => .error (way.missing none)
  | .error (.gateway fault) =>
    .error (.unauthorized (if fault.isMapping then way.invalid else way.notFound) (some fault))
  | .error failure => .error failure

/-- How a lookup ends over a database, computed. -/
def outcome (way : Way) (database : Database) : Except Failure User :=
  way.conclude (Directory.readUser way.unavailable (way.reply database))

variable {way : Way} {database : Database} {table : UserTable}

theorem outcome_of_noTable (gone : database.users = none) :
    way.outcome database = .error (way.missing (some (.unavailable way.unavailable))) := by
  unfold outcome reply
  rw [gone]
  rfl

theorem outcome_of_noColumn (kept : database.users = some table)
    (column : table.hasColumn way.column = false) :
    way.outcome database = .error (way.missing (some (.unavailable way.unavailable))) := by
  unfold outcome reply
  rw [kept]
  simp only [column]
  rfl

theorem outcome_of_hasColumn (kept : database.users = some table)
    (column : table.hasColumn way.column = true) :
    way.outcome database = way.conclude (Directory.readUser way.unavailable
      (.answer ((table.rows.find? (table.holds way.column way.cell)).map table.named))) := by
  unfold outcome reply
  rw [kept]
  simp only [column, if_true]

theorem outcome_of_first {row : List Cell} (kept : database.users = some table)
    (column : table.hasColumn way.column = true)
    (first : table.FirstWith way.column way.cell row) :
    way.outcome database = way.conclude ((User.ofRow (table.named row)).map some) := by
  rw [outcome_of_hasColumn kept column, UserTable.firstWith_iff.mp first]
  rfl

/-- **A lookup ends in exactly one way**, the computed one. -/
theorem outcome_eq_iff (way : Way) (database : Database) (ending : Except Failure User) :
    way.outcome database = ending ↔ Ends database way ending := by
  constructor
  · rintro rfl
    cases kept : database.users with
    | none => exact outcome_of_noTable kept ▸ Ends.noTable kept
    | some table =>
      cases column : table.hasColumn way.column with
      | false => exact outcome_of_noColumn kept column ▸ Ends.noColumn kept column
      | true =>
        cases found : table.rows.find? (table.holds way.column way.cell) with
        | none =>
          rw [outcome_of_hasColumn kept column, found]
          exact Ends.absent kept column (UserTable.find?_eq_none_iff.mp found)
        | some row =>
          have first := UserTable.firstWith_iff.mpr found
          rw [outcome_of_first kept column first]
          cases decoded : User.ofRow (table.named row) with
          | ok user => exact Ends.found kept column first decoded
          | error failure =>
            obtain ⟨field, defect, rfl⟩ := UserTable.gateway_of_ofRow decoded
            exact Ends.invalid kept column first decoded
  · intro ends
    cases ends with
    | found kept column first decodes =>
      rw [outcome_of_first kept column first, decodes]
      rfl
    | invalid kept column first fails =>
      obtain ⟨field, defect, named⟩ := UserTable.gateway_of_ofRow fails
      rw [outcome_of_first kept column first, fails]
      cases named
      rfl
    | absent kept column nowhere =>
      rw [outcome_of_hasColumn kept column, UserTable.find?_eq_none_iff.mpr nowhere]
      rfl
    | noTable gone => exact outcome_of_noTable gone
    | noColumn kept column => exact outcome_of_noColumn kept column

/-! ### The two lookups -/

/-- A query for the rows with the cell asked for has the first of them as its reply. -/
theorem reply_of_query {statement : Statement}
    (query : database.query statement = database.userTable >>= fun table =>
      table.select way.column way.cell >>= fun rows => .ok (rows.map table.named)) :
    database.reply List.head? statement = way.reply database := by
  unfold Database.reply reply
  rw [query]
  unfold Database.userTable
  cases database.users with
  | none => rfl
  | some table =>
    cases column : table.hasColumn way.column with
    | false =>
      have refused := UserTable.select_of_not_hasColumn way.cell column
      simp only [bind, Except.bind, refused, column, Bool.false_eq_true, if_false]
    | true =>
      have selected := UserTable.select_of_hasColumn way.cell column
      simp only [bind, Except.bind, selected, column, if_true, List.head?_map,
        UserTable.head?_select selected]

theorem outcome_reportByEmail (email : String) (answer : Except Failure (Option User)) :
    (reportByEmail email answer).outcome = (Way.email email).conclude answer := by
  match answer with
  | .ok (some _) | .ok none => rfl
  | .error failure => cases failure <;> rfl

theorem outcome_reportById (id : Uuid) (answer : Except Failure (Option User)) :
    (reportById id answer).outcome = (Way.id id).conclude answer := by
  match answer with
  | .ok (some _) | .ok none => rfl
  | .error failure => cases failure <;> rfl

end Way

variable {database : Database}

/-- **A user that is found by address has the address asked for**, which is not empty. -/
theorem Ends.email_eq {email : String} {user : User}
    (ends : Ends database (Way.email email) (.ok user)) : user.email = email ∧ email ≠ "" := by
  cases ends with
  | found kept column first decodes =>
    obtain ⟨-, emailOf, -, -⟩ := (User.ofRow_eq_ok_iff _ _).mp decodes
    obtain ⟨-, cell, compared, decoded⟩ := UserTable.cell?_of_decodeField emailOf
    obtain ⟨before, behind, -, -, asked⟩ := first
    have same : cell = .text email := Option.some.inj (compared.symm.trans asked)
    rw [same] at decoded
    obtain ⟨rfl, nonempty⟩ := User.decodeText_text_eq_ok_iff.mp decoded
    exact ⟨rfl, nonempty⟩

/-- **A user that is found by identifier has the identifier asked for.** -/
theorem Ends.id_eq {id : Uuid} {user : User} (ends : Ends database (Way.id id) (.ok user)) :
    user.id = id := by
  cases ends with
  | found kept column first decodes =>
    obtain ⟨idOf, -, -, -⟩ := (User.ofRow_eq_ok_iff _ _).mp decodes
    obtain ⟨-, cell, compared, decoded⟩ := UserTable.cell?_of_decodeField idOf
    obtain ⟨before, behind, -, -, asked⟩ := first
    have same : cell = .blob id.bytes := Option.some.inj (compared.symm.trans asked)
    rw [same] at decoded
    exact Except.ok.inj (decoded.symm.trans (User.decodeId_bytes .string id))

theorem Ends.failsWith {way : Way} {failure : Failure}
    (ends : Ends database way (.error failure)) : way.FailsWith failure := by
  cases ends with
  | invalid kept column first fails =>
    obtain ⟨field, defect, named⟩ := UserTable.gateway_of_ofRow fails
    cases named
    exact ⟨rfl, Or.inr (Or.inr ⟨_, rfl, rfl⟩)⟩
  | absent kept column nowhere => exact ⟨rfl, Or.inl rfl⟩
  | noTable gone => exact ⟨rfl, Or.inr (Or.inl ⟨_, rfl, rfl⟩)⟩
  | noColumn kept column => exact ⟨rfl, Or.inr (Or.inl ⟨_, rfl, rfl⟩)⟩

/-! ### Both lookups are exact -/

/-- A lookup over a database is exact: it changes nothing, it ends in the one way that the first
row with the cell decides, a user that it finds is the one asked for, and every failure is an
unauthorized one. -/
structure Exact (database : Database) (way : Way) (asked : User → Prop)
    (lookup : StateM Database (Report User)) : Prop where
  unchanged : (lookup.run database).2 = database
  outcome_eq_iff : ∀ ending, (lookup.run database).1.outcome = ending ↔ Ends database way ending
  asked_of_ok : ∀ user, (lookup.run database).1.outcome = .ok user → asked user
  failsWith_of_error : ∀ failure, (lookup.run database).1.outcome = .error failure →
    way.FailsWith failure

theorem exact_of_outcome {way : Way} {asked : User → Prop} {report : Report User}
    {lookup : StateM Database (Report User)} (run : lookup.run database = (report, database))
    (outcome : report.outcome = way.outcome database)
    (asks : ∀ user, Ends database way (.ok user) → asked user) :
    Exact database way asked lookup := by
  have ends : ∀ ending, (lookup.run database).1.outcome = ending ↔ Ends database way ending := by
    intro ending
    rw [run, ← way.outcome_eq_iff database ending, ← outcome]
  refine ⟨by rw [run], ends, fun user found => ?_, fun failure failed => ?_⟩
  · exact asks user ((ends _).mp found)
  · exact ((ends _).mp failed).failsWith

/-- **Both lookups are exact over every database.** -/
theorem lookup_exact (database : Database) :
    (∀ email, Exact database (Way.email email) (fun user => user.email = email ∧ email ≠ "")
      (byEmail (Directory.ofStorage Database.storage) email)) ∧
    ∀ id, Exact database (Way.id id) (fun user => user.id = id)
      (byId (Directory.ofStorage Database.storage) id) := by
  constructor
  · intro email
    have run : (byEmail (Directory.ofStorage Database.storage) email).run database =
        (reportByEmail email (Directory.readUser "User query by email failed"
          (database.reply List.head? (.userByEmail email))), database) := rfl
    have reply : database.reply List.head? (.userByEmail email) = (Way.email email).reply database :=
      Way.reply_of_query rfl
    refine exact_of_outcome run ?_ fun user ends => ends.email_eq
    rw [reply]
    exact Way.outcome_reportByEmail email _
  · intro id
    have run : (byId (Directory.ofStorage Database.storage) id).run database =
        (reportById id (Directory.readUser "User query by id failed"
          (database.reply List.head? (.userById id))), database) := rfl
    have reply : database.reply List.head? (.userById id) = (Way.id id).reply database :=
      Way.reply_of_query rfl
    refine exact_of_outcome run ?_ fun user ends => ends.id_eq
    rw [reply]
    exact Way.outcome_reportById id _

/-- Two rows with one address, of which only the later one is a user: by the address no user is
found, by the identifier the later row is. -/
theorem first_row_decides :
    let id : Uuid := Uuid.ofNat 7
    let table : UserTable := ⟨["id", "email", "admin", "verified"],
      [[.null, .text "a@b.c", .int 0, .int 1], [.blob id.bytes, .text "a@b.c", .int 0, .int 1]],
      by decide⟩
    let database : Database := ⟨some table, none⟩
    let directory := Directory.ofStorage Database.storage
    ((byEmail directory "a@b.c").run database).1.outcome = .error (.unauthorized "invalid user"
        (some (.undecodable "id" "unexpected type NoneType"))) ∧
      ((byId directory id).run database).1.outcome = .ok ⟨id, "a@b.c", false, true⟩ := by
  intro id table database directory
  obtain ⟨byAddress, byIdentifier⟩ := lookup_exact database
  constructor
  · refine ((byAddress "a@b.c").outcome_eq_iff _).mpr ?_
    exact Ends.invalid rfl rfl ⟨[], _, rfl, fun _ member => absurd member List.not_mem_nil, rfl⟩ rfl
  · refine ((byIdentifier id).outcome_eq_iff _).mpr ?_
    subst id
    exact Ends.found rfl rfl ⟨[[.null, .text "a@b.c", .int 0, .int 1]], [], rfl, by decide, rfl⟩ rfl

end Lookup

end SignIn

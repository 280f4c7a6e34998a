/-
**The ways of asking about a user agree.**

A user is asked for by address, by identifier, by whether the address is taken, and by whether the
identifier is an administrator's. Each way has a statement and a decoder of its own; over a database
in which no two rows have the same identifier they tell one story:

* `outcome_userExists_of_first`, `outcome_userExists_of_nowhere`: whether an address is taken, by
  the rows of the table, and `Ends.tells`: what the lookup by address says about it;
* `FirstWith.id_of_distinct`: a row that was found in any way is the first one with its identifier,
  so it is found by that, too;
* `Ends.outcome_isAdmin`: the check for administrators reads the flag of the row that the
  identifier finds;
* `ways_of_asking_agree`: all of it together.
-/

import SignIn.Proofs.Lookup.Admin
import SignIn.Proofs.Lookup.StorageFailure

namespace SignIn

/-- What a row holds as its identifier, null if it holds nothing. -/
def UserTable.identifier (table : UserTable) (row : List Cell) : Cell :=
  (table.cell? "id" row).getD .null

/-- No two rows have the same identifier. Rows without one are not counted. -/
def UserTable.DistinctIds (table : UserTable) : Prop :=
  table.rows.Pairwise fun first second =>
    table.identifier first = table.identifier second → table.identifier first = .null

instance (table : UserTable) : Decidable table.DistinctIds :=
  inferInstanceAs (Decidable (List.Pairwise _ _))

/-- No two users that a database keeps have the same identifier. -/
def Database.DistinctUsers (database : Database) : Prop :=
  ∀ table, database.users = some table → table.DistinctIds

/-- A database as a directory. -/
def Database.directory : Directory (StateM Database) User :=
  Directory.ofStorage Database.storage

/-- How something that is asked of a database ends. -/
def Database.outcome {α : Type} (database : Database) (asked : StateM Database (Report α)) :
    Except Failure α :=
  (asked.run database).1.outcome

/-! ### What the row of a user holds -/

namespace UserTable

variable {table : UserTable} {column : String} {cell : Cell} {row : List Cell}

/-- **A row found in any way is the first with its identifier**, where identifiers are distinct. -/
theorem FirstWith.id_of_distinct {content : List UInt8} (found : table.FirstWith column cell row)
    (distinct : table.DistinctIds) (idOf : table.cell? "id" row = some (.blob content)) :
    table.FirstWith "id" (.blob content) row := by
  obtain ⟨before, behind, parts, -, -⟩ := found
  refine ⟨before, behind, parts, fun earlier member same => ?_, idOf⟩
  unfold DistinctIds identifier at distinct
  rw [parts, List.pairwise_append] at distinct
  have null := distinct.2.2 earlier member row List.mem_cons_self
  rw [same, idOf] at null
  cases null rfl

end UserTable

/-- Only the sixteen bytes of an identifier decode to it. -/
theorem Cell.eq_blob_of_decodeId {cell : Cell} {id : Uuid}
    (decoded : User.decodeId cell.value = .ok id) : cell = .blob id.bytes := by
  cases cell with
  | blob content =>
    simp only [value, User.decodeId, Uuid.ofBytes?] at decoded
    by_cases sixteen : content.length = 16
    · simp only [sixteen, dite_true] at decoded
      cases decoded
      rfl
    · simp only [sixteen, dite_false] at decoded
      cases decoded
  | null | int _ | real _ | text _ => cases decoded

section Decoded

variable {table : UserTable} {row : List Cell} {user : User}

/-- The row of a user holds the bytes of its identifier. -/
theorem UserTable.id_of_ofRow (decodes : User.ofRow (table.named row) = .ok user) :
    table.hasColumn "id" = true ∧ table.cell? "id" row = some (.blob user.id.bytes) := by
  obtain ⟨idOf, -, -, -⟩ := (User.ofRow_eq_ok_iff _ _).mp decodes
  obtain ⟨column, cell, compared, decoded⟩ := cell?_of_decodeField idOf
  refine ⟨column, ?_⟩
  rw [← Cell.eq_blob_of_decodeId decoded]
  exact compared

/-- The row of a user holds a cell that decodes to its flag of an administrator. -/
theorem UserTable.admin_of_ofRow (decodes : User.ofRow (table.named row) = .ok user) :
    table.hasColumn "admin" = true ∧ ∃ cell, table.cell? "admin" row = some cell ∧
      User.decodeFlag cell.value = .ok user.admin := by
  obtain ⟨-, -, adminOf, -⟩ := (User.ofRow_eq_ok_iff _ _).mp decodes
  exact cell?_of_decodeField adminOf

end Decoded

namespace Lookup

variable {database : Database} {table : UserTable} {email : String} {id : Uuid} {user : User}

/-! ### Looking up a user -/

/-- **A lookup over a database ends in the one way that the table decides.** -/
theorem Key.outcome_lookUp_eq_iff (key : Key) (database : Database)
    (ending : Except Failure User) :
    database.outcome (key.lookUp Database.directory) = ending ↔ Ends database key.way ending := by
  have computed : database.outcome (key.lookUp Database.directory) = key.way.outcome database := by
    unfold Database.outcome Database.directory
    rw [key.outcome_lookUp, key.find_ofStorage, key.firstRow_storage]
    rfl
  rw [computed]
  exact key.way.outcome_eq_iff database ending

/-- **A user that was found is found by its identifier, too**, where identifiers are distinct. -/
theorem Ends.byId {way : Way} (ends : Ends database way (.ok user))
    (distinct : database.DistinctUsers) : Ends database (Way.id user.id) (.ok user) := by
  cases ends with
  | found kept column first decodes =>
    obtain ⟨idColumn, idOf⟩ := UserTable.id_of_ofRow decodes
    exact Ends.found kept idColumn (first.id_of_distinct (distinct _ kept) idOf) decodes

/-! ### Whether an address is taken -/

/-- What the end of a lookup by address tells about whether the address is taken: it is if a row was
found, be it a user or not, and both fail where the table cannot be asked. -/
inductive Tells : Except Failure User → Except Failure Value → Prop where
  | found (user : User) : Tells (.ok user) (.ok (.bool true))
  | invalid {fault : GatewayFault} (reason : String) (row : fault.name = "UserRowDecodeError") :
      Tells (.error (.unauthorized reason (some fault))) (.ok (.bool true))
  | absent : Tells (.error (.unauthorized "user not found by email" none)) (.ok (.bool false))
  | unasked (reason message : String) :
      Tells (.error (.unauthorized reason (some (.unavailable message))))
        (.error (.storage .operational))

theorem outcome_userExists_of_query {rows : List Row}
    (query : database.query (.emailTaken email) = .ok rows) :
    database.outcome (userExists Database.directory email) =
      .ok (.bool (Database.firstValue rows).truthy) := by
  show Directory.readTruth (database.reply Database.firstValue (.emailTaken email)) = _
  rw [Database.reply, query]
  rfl

theorem outcome_userExists_of_refused
    (query : database.query (.emailTaken email) = .error .operational) :
    database.outcome (userExists Database.directory email) = .error (.storage .operational) := by
  show Directory.readTruth (database.reply Database.firstValue (.emailTaken email)) = _
  rw [Database.reply, query]
  rfl

/-- The query whether an address is taken, where the table has addresses. -/
theorem query_emailTaken (email : String) (kept : database.users = some table)
    (column : table.hasColumn "email" = true) :
    database.query (.emailTaken email) = .ok [[("taken", .int
      (if (table.rows.filter (table.holds "email" (.text email))).isEmpty then 0 else 1))]] := by
  simp only [Database.query, Database.userTable, kept, bind, Except.bind,
    UserTable.select_of_hasColumn _ column]
  rfl

theorem outcome_userExists_of_first {row : List Cell} (kept : database.users = some table)
    (column : table.hasColumn "email" = true)
    (first : table.FirstWith "email" (.text email) row) :
    database.outcome (userExists Database.directory email) = .ok (.bool true) := by
  have member : row ∈ table.rows.filter (table.holds "email" (.text email)) :=
    List.mem_filter.mpr ⟨List.mem_of_find?_eq_some (UserTable.firstWith_iff.mp first),
      List.find?_some (UserTable.firstWith_iff.mp first)⟩
  have some : (table.rows.filter (table.holds "email" (.text email))).isEmpty = false :=
    List.isEmpty_eq_false_iff_exists_mem.mpr ⟨row, member⟩
  have query := query_emailTaken email kept column
  rw [some] at query
  exact outcome_userExists_of_query query

theorem outcome_userExists_of_nowhere (kept : database.users = some table)
    (column : table.hasColumn "email" = true)
    (nowhere : ∀ row ∈ table.rows, table.cell? "email" row ≠ some (.text email)) :
    database.outcome (userExists Database.directory email) = .ok (.bool false) := by
  have none : table.rows.filter (table.holds "email" (.text email)) = [] :=
    List.filter_eq_nil_iff.mpr fun row member holds =>
      nowhere row member (UserTable.holds_iff.mp holds)
  have query := query_emailTaken email kept column
  rw [none] at query
  exact outcome_userExists_of_query query

/-- **The end of a lookup by address tells whether the address is taken.** -/
theorem Ends.tells {ending : Except Failure User} (ends : Ends database (Way.email email) ending) :
    Tells ending (database.outcome (userExists Database.directory email)) := by
  cases ends with
  | found kept column first decodes =>
    rw [outcome_userExists_of_first kept column first]
    exact Tells.found _
  | invalid kept column first fails =>
    obtain ⟨field, defect, named⟩ := UserTable.gateway_of_ofRow fails
    cases named
    rw [outcome_userExists_of_first kept column first]
    exact Tells.invalid _ rfl
  | absent kept column nowhere =>
    rw [outcome_userExists_of_nowhere kept column nowhere]
    exact Tells.absent
  | noTable gone =>
    have refused : database.query (.emailTaken email) = .error .operational := by
      simp only [Database.query, Database.userTable, gone]
      rfl
    rw [outcome_userExists_of_refused refused]
    exact Tells.unasked _ _
  | noColumn kept column =>
    have unknown : UserTable.hasColumn _ "email" = false := column
    have refused : database.query (.emailTaken email) = .error .operational := by
      simp only [Database.query, Database.userTable, kept, bind, Except.bind,
        UserTable.select_of_not_hasColumn _ unknown]
    rw [outcome_userExists_of_refused refused]
    exact Tells.unasked _ _

section Told

variable {told : Except Failure Value} {ending : Except Failure User} {failure : Failure}

theorem Tells.taken_of_ok (tells : Tells (.ok user) told) : told = .ok (.bool true) := by
  cases tells
  rfl

theorem Tells.absent_of_free (tells : Tells ending (.ok (.bool false))) :
    ending = .error (.unauthorized "user not found by email" none) := by
  cases tells
  rfl

theorem Tells.undecodable_of_taken (tells : Tells (.error failure) (.ok (.bool true))) :
    ∃ reason fault, failure = .unauthorized reason (some fault) ∧
      fault.name = "UserRowDecodeError" := by
  cases tells with
  | invalid reason row => exact ⟨reason, _, rfl, row⟩

end Told

/-! ### Whether an identifier is an administrator's -/

/-- The reply about the administrator's flag, where a row is found by the identifier. -/
theorem reply_adminById {row : List Cell} {cell : Cell} (kept : database.users = some table)
    (column : table.hasColumn "id" = true) (first : table.FirstWith "id" (.blob id.bytes) row)
    (flagColumn : table.hasColumn "admin" = true) (flag : table.cell? "admin" row = some cell) :
    ((Database.storage.firstValues (.adminById id)).run database).1 =
      .answer (some [cell.value]) := by
  have head := UserTable.head?_select (UserTable.select_of_hasColumn (.blob id.bytes) column)
  rw [UserTable.firstWith_iff.mp first] at head
  obtain ⟨rest, rows⟩ := List.head?_eq_some_iff.mp head
  have found : database.query (.adminById id) = .ok ((row :: rest).map fun row =>
      [("admin", ((table.cell? "admin" row).getD .null).value)]) := by
    simp only [Database.query, Database.userTable, kept, bind, Except.bind,
      UserTable.select_of_hasColumn _ column, flagColumn, if_true, rows]
    rfl
  show database.reply (fun rows => rows.head?.map (·.map Prod.snd)) (.adminById id) = _
  rw [Database.reply, found, List.map_cons, flag]
  rfl

/-- **The check for administrators gives the flag of the user that the identifier finds.** -/
theorem Ends.outcome_isAdmin (ends : Ends database (Way.id id) (.ok user)) (subject : Subject)
    (about : subject.uuid = id) :
    database.outcome (isAdmin Database.directory subject) = .ok user.admin := by
  cases ends with
  | found kept column first decodes =>
    obtain ⟨flagColumn, cell, flag, decoded⟩ := UserTable.admin_of_ofRow decodes
    have replied := reply_adminById kept column first flagColumn flag
    have read : Directory.readFlag (.answer (some [cell.value])) = .ok (.bool user.admin) := by
      simp only [Directory.readFlag, User.decodeColumn, decoded]
      rfl
    show (reportAdmin subject.uuid (Directory.readFlag
      ((Database.storage.firstValues (.adminById subject.uuid)).run database).1)).outcome = _
    rw [about, replied, read]
    exact (reportAdmin_ok id (.bool user.admin)).1

/-! ### All ways of asking -/

/-- What the ways of asking a database about users say of an address and an identifier. None of them
changes the database, so that they can be asked in turn. -/
structure Agree (database : Database) (email : String) (id : Uuid) : Prop where
  /-- A user that is found by address is found in every other way. -/
  foundByEmail : ∀ user, database.outcome (byEmail Database.directory email) = .ok user →
    database.outcome (userExists Database.directory email) = .ok (.bool true) ∧
      database.outcome (byId Database.directory user.id) = .ok user ∧
      database.outcome (isAdmin Database.directory (.user user)) = .ok user.admin ∧
      database.outcome (isAdmin Database.directory (.id user.id)) = .ok user.admin
  foundById : ∀ user, database.outcome (byId Database.directory id) = .ok user →
    database.outcome (isAdmin Database.directory (.id id)) = .ok user.admin
  /-- Where the address is free, no user is found, and nothing has gone wrong. -/
  free : database.outcome (userExists Database.directory email) = .ok (.bool false) →
    database.outcome (byEmail Database.directory email) =
      .error (.unauthorized "user not found by email" none)
  /-- Where it is taken, only a row that does not decode keeps the user from being found. -/
  taken : database.outcome (userExists Database.directory email) = .ok (.bool true) →
    ∀ failure, database.outcome (byEmail Database.directory email) = .error failure →
      ∃ reason fault, failure = .unauthorized reason (some fault) ∧
        fault.name = "UserRowDecodeError"
  unchanged : ((byEmail Database.directory email).run database).2 = database ∧
    ((userExists Database.directory email).run database).2 = database ∧
    ((byId Database.directory id).run database).2 = database ∧
    ∀ subject, ((isAdmin Database.directory subject).run database).2 = database

/-- **The ways of asking about a user agree** over every database in which no two users have the
same identifier. -/
theorem ways_of_asking_agree (database : Database) (distinct : database.DistinctUsers)
    (email : String) (id : Uuid) : Agree database email id := by
  have byAddress := (Key.email email).outcome_lookUp_eq_iff database
  have byIdentifier := fun id => (Key.id id).outcome_lookUp_eq_iff database
  have tells : Tells (database.outcome (byEmail Database.directory email))
      (database.outcome (userExists Database.directory email)) :=
    ((byAddress _).mp rfl).tells
  refine ⟨fun user found => ?_, fun user found => ?_, fun free => ?_, fun taken failure failed => ?_,
    rfl, rfl, rfl, fun _ => rfl⟩
  · have ends := ((byAddress _).mp found).byId distinct
    rw [found] at tells
    exact ⟨tells.taken_of_ok, (byIdentifier user.id _).mpr ends,
      ends.outcome_isAdmin (.user user) rfl, ends.outcome_isAdmin (.id user.id) rfl⟩
  · exact ((byIdentifier id _).mp found).outcome_isAdmin (.id id) rfl
  · rw [free] at tells
    exact tells.absent_of_free
  · rw [taken, failed] at tells
    exact tells.undecodable_of_taken

/-- Two rows with one address, of which only the first is a user; an identifier is missing in two
rows. -/
theorem first_of_two_rows_agrees :
    let id : Uuid := Uuid.ofNat 7
    let table : UserTable := ⟨["id", "email", "admin", "verified"],
      [[.null, .null, .int 0, .int 0], [.blob id.bytes, .text "a@b.c", .int 1, .int 0],
        [.null, .text "a@b.c", .int 0, .int 0]], by decide⟩
    let database : Database := ⟨some table, none⟩
    let user : User := ⟨id, "a@b.c", true, false⟩
    database.DistinctUsers ∧
      database.outcome (byEmail Database.directory "a@b.c") = .ok user ∧
      database.outcome (userExists Database.directory "a@b.c") = .ok (.bool true) ∧
      database.outcome (isAdmin Database.directory (.user user)) = .ok true := by
  intro id table database user
  have distinct : database.DistinctUsers := by
    rintro _ ⟨⟩
    decide
  have found : database.outcome (byEmail Database.directory "a@b.c") = .ok user := by
    refine ((Key.email "a@b.c").outcome_lookUp_eq_iff database _).mpr ?_
    subst id
    exact Ends.found rfl rfl ⟨[[.null, .null, .int 0, .int 0]], _, rfl, by decide, rfl⟩ rfl
  obtain ⟨taken, -, admin, -⟩ :=
    (ways_of_asking_agree database distinct "a@b.c" id).foundByEmail user found
  exact ⟨distinct, found, taken, admin⟩

end Lookup

end SignIn

/-
**The database.**

Two tables are kept: users, in columns that may hold values of any type, and sessions, each a
user and a refresh token. Rows stay in order of insertion. Texts and bytes are compared by exact
content and numbers by value; null equals nothing. No two sessions have the same token, null apart:

* `insert_distinct`: inserting keeps the tokens distinct.
-/

import SignIn.Number.Decimal
import SignIn.Storage

namespace SignIn

/-- A value as the database keeps it. -/
inductive Cell where
  | null
  /-- An integer that fits into a machine word. -/
  | int (value : Int64)
  /-- A floating-point number, kept as its shortest decimal text. -/
  | real (shortest : String)
  | text (content : String)
  | blob (content : List UInt8)
deriving DecidableEq

namespace Cell

/-- The cell that keeps a value: a truth value is kept as 0 or 1, and what is not a number as null. An
integer that does not fit into a machine word is not kept. -/
def ofValue : Value → Except Failure Cell
  | .null => .ok null
  | .bool value => .ok (int (if value then 1 else 0))
  | .int value =>
    if Number.fitsWord value then .ok (int (Int64.ofInt value)) else .error .outOfRange
  | .float shortest => .ok (if shortest = "nan" then null else real shortest)
  | .text content => .ok (text content)
  | .bytes _ content => .ok (blob content)
  | .uuid _ | .list _ | .record _ => .error (.storage .programming)

/-- The value that a cell gives back. -/
def value : Cell → Value
  | null => .null
  | int value => .int value.toInt
  | real shortest => .float shortest
  | text content => .text content
  | blob content => .bytes .string content

/-- Whether the numbers with two shortest texts are equal. Apart from zero, which has two signs,
only the number itself has its shortest text. -/
def sameReal (first second : String) : Bool :=
  let isZero (shortest : String) := (Number.Double.ofText shortest).equalsInt 0
  first == second || (isZero first && isZero second)

/-- Whether two cells are equal. -/
def equals : Cell → Cell → Bool
  | int first, int second => first == second
  | int first, real second => (Number.Double.ofText second).equalsInt first.toInt
  | real first, int second => (Number.Double.ofText first).equalsInt second.toInt
  | real first, real second => sameReal first second
  | text first, text second => first == second
  | blob first, blob second => first == second
  | _, _ => false

end Cell

/-- Whether two texts name the same column. The case of the letters A to Z does not count. -/
def sameColumn (first second : String) : Bool :=
  first.toList.map Char.toLower == second.toList.map Char.toLower

/-- The table of users. -/
structure UserTable where
  columns : List String
  rows : List (List Cell)
  distinct_columns : columns.Pairwise fun first second => sameColumn first second = false

namespace UserTable

/-- A row with the names of its columns. -/
def named (table : UserTable) (row : List Cell) : Row :=
  table.columns.zip (row.map Cell.value)

/-- A row of so many values. -/
def rowOf (width : Nat) (values : List Value) : Except Failure (List Cell) :=
  if values.length = width then values.mapM Cell.ofValue else .error (.storage .operational)

/-- The table with given columns, no two of one name, and rows with a value for each of them. -/
def ofRows (columns : List String) (rows : List (List Value)) : Except Failure UserTable :=
  if distinct : columns.Pairwise fun first second => sameColumn first second = false then do
    return ⟨columns, ← rows.mapM (rowOf columns.length), distinct⟩
  else .error (.storage .operational)

/-- Whether a table has a column. -/
def hasColumn (table : UserTable) (column : String) : Bool :=
  table.columns.any (sameColumn column)

/-- The cell of a row in a column. -/
def cell? (table : UserTable) (column : String) (row : List Cell) : Option Cell :=
  ((table.columns.zip row).find? fun entry => sameColumn column entry.1).map Prod.snd

/-- Whether a row has a cell in a column. -/
def holds (table : UserTable) (column : String) (cell : Cell) (row : List Cell) : Bool :=
  table.cell? column row == some cell

/-- The rows with a cell in a column; there is no such question about a column that the table
does not have. -/
def select (table : UserTable) (column : String) (cell : Cell) :
    Except StorageFault (List (List Cell)) :=
  if table.hasColumn column then .ok (table.rows.filter (table.holds column cell))
  else .error .operational

end UserTable

/-- A row of the table of sessions. -/
structure SessionRow where
  user : Cell
  token : Cell
deriving DecidableEq

namespace SessionRow

/-- Whether two sessions have the same refresh token; null is the same as nothing. -/
def clashes (first second : SessionRow) : Prop :=
  first.token.equals second.token = true

instance (first second : SessionRow) : Decidable (first.clashes second) :=
  inferInstanceAs (Decidable (_ = true))

/-- Whether a row goes when the sessions of a user are revoked. -/
def ofUser (id : Uuid) (row : SessionRow) : Bool :=
  row.user == .blob id.bytes

/-- Whether a row goes when the session with a token is revoked. -/
def ofToken (token : String) (row : SessionRow) : Bool :=
  row.token == .text token

end SessionRow

/-- A row of the table of sessions with given values. -/
def SessionRow.ofValues (user token : Value) : Except Failure SessionRow :=
  return ⟨← Cell.ofValue user, ← Cell.ofValue token⟩

/-- The table of sessions. -/
abbrev SessionTable := List SessionRow

namespace SessionTable

/-- No two rows have the same refresh token. -/
def Distinct (table : SessionTable) : Prop :=
  table.Pairwise fun first second => ¬ first.clashes second

/-- Adds a row at the end; a refresh token that is already there is refused. -/
def insert (table : SessionTable) (row : SessionRow) : Except StorageFault SessionTable :=
  if ∃ old ∈ table, old.clashes row then .error .integrity else .ok (table ++ [row])

/-- The rows that a revocation leaves, and how many it takes. -/
def revoke (table : SessionTable) (doomed : SessionRow → Bool) : SessionTable × Nat :=
  (table.filter (!doomed ·), table.countP doomed)

/-- The table with given rows, inserted one after the other. -/
def ofRows (rows : List (Value × Value)) : Except Failure SessionTable :=
  rows.foldlM (fun table row => do
    (insert table (← SessionRow.ofValues row.1 row.2)).mapError .storage) []

/-- **Inserting keeps the tokens distinct.** -/
theorem insert_distinct {table grown : SessionTable} {row : SessionRow} (distinct : table.Distinct)
    (inserted : table.insert row = .ok grown) : grown.Distinct := by
  unfold insert at inserted
  split at inserted
  · cases inserted
  · rename_i fresh
    cases inserted
    refine List.pairwise_append.mpr ⟨distinct, List.pairwise_singleton _ _, ?_⟩
    intro old member last same
    rw [List.mem_singleton] at same
    exact same ▸ fun clash => fresh ⟨old, member, clash⟩

end SessionTable

/-- The two tables, each of which may be missing. -/
structure Database where
  users : Option UserTable
  sessions : Option SessionTable

namespace Database

/-- The table of users, which must exist to be asked. -/
def userTable (database : Database) : Except StorageFault UserTable :=
  match database.users with
  | some table => .ok table
  | none => .error .operational

/-- The rows that a query gives, each with the names of its columns. -/
def query (database : Database) : Statement → Except StorageFault (List Row)
  | .userByEmail email => do
    let table ← database.userTable
    return (← table.select "email" (.text email)).map table.named
  | .userById id => do
    let table ← database.userTable
    return (← table.select "id" (.blob id.bytes)).map table.named
  | .adminById id => do
    let table ← database.userTable
    let rows ← table.select "id" (.blob id.bytes)
    if table.hasColumn "admin" then
      return rows.map fun row => [("admin", ((table.cell? "admin" row).getD .null).value)]
    else .error .operational
  | .emailTaken email => do
    let table ← database.userTable
    let rows ← table.select "email" (.text email)
    return [[("taken", .int (if rows.isEmpty then 0 else 1))]]
  | .revokeByUser _ | .revokeByToken _ => .ok []

/-- Revokes sessions; their table must exist. -/
def revoke (database : Database) (doomed : SessionRow → Bool) :
    Except StorageFault (Int × Database) :=
  match database.sessions with
  | some table =>
    let (left, count) := table.revoke doomed
    .ok (count, { database with sessions := some left })
  | none => .error .operational

/-- Carries out a change: how many rows it affects, and the database after it. -/
def change (database : Database) : Statement → Except StorageFault (Int × Database)
  | .revokeByUser id => database.revoke (·.ofUser id)
  | .revokeByToken token => database.revoke (·.ofToken token)
  | .userByEmail _ | .userById _ | .adminById _ | .emailTaken _ => .ok (0, database)

/-- Adds a session with given values; the table of sessions must exist. -/
def insertSession (database : Database) (user token : Value) : Except Failure Database :=
  match database.sessions with
  | some table => do
    let grown ← (table.insert (← SessionRow.ofValues user token)).mapError .storage
    return { database with sessions := some grown }
  | none => .error (.storage .operational)

/-- A database with given rows. Without columns there is no table of users. -/
def ofRows (columns : List String) (users : List (List Value))
    (sessions : Option (List (Value × Value))) : Except Failure Database := do
  let table ← if columns.isEmpty then pure none else some <$> UserTable.ofRows columns users
  return ⟨table, ← sessions.mapM SessionTable.ofRows⟩

/-- The reply to a query, of which `read` takes what is wanted. -/
def reply {α : Type} (database : Database) (read : List Row → α) (statement : Statement) :
    Reply α :=
  match database.query statement with
  | .ok rows => .answer (read rows)
  | .error fault => .refused (.storage fault)

/-- The first value of the first row, null if there is none. -/
def firstValue : List Row → Value
  | ((_, value) :: _) :: _ => value
  | _ => .null

/-- A database as a storage. -/
def storage : Storage (StateM Database) where
  firstRow statement database := (database.reply List.head? statement, database)
  firstValues statement database :=
    (database.reply (fun rows => rows.head?.map (·.map Prod.snd)) statement, database)
  scalar statement database := (database.reply firstValue statement, database)
  affected statement database :=
    match database.change statement with
    | .ok (count, changed) => (.ok count, changed)
    | .error fault => (.error (.storage fault), database)

end Database

end SignIn

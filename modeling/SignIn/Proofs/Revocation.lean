/-
**Revoking sessions in any order.**

A revocation is sent with a key, a user or a refresh token, and a row may be taken by keys of both
kinds. So what one revocation takes depends on those before it; what all of them take together does
not:

* `Database.exists_seen`: no two rows of a table that is reached have the same refresh token;
* `Key.perform_action`: one revocation takes the rows with its key, and reports and logs how many;
* `Key.removes`: the rest stays as it is, a second revocation with the key takes nothing, and a token
  takes one row at most;
* `exists_removeAll`: revocations in turn leave the rows that none of their keys takes, and take as
  many as are missing then;
* `revocations_remove_exactly`: so their order makes no difference to the table and to the total.
-/

import Mathlib
import SignIn.Proofs.Transaction

namespace SignIn

/-! ### The tables that are reached -/

namespace Action

/-- **No action makes two tokens the same**: an insertion that would is refused, and a revocation
only takes rows away. -/
theorem replay_distinct {table : SessionTable} (distinct : table.Distinct) (action : Action) :
    (replay table action).Distinct := by
  cases action with
  | call request =>
    cases request with
    | inquire _ => exact distinct
    | revokeAll _ | revoke _ => exact List.Pairwise.filter _ distinct
  | insertSession user token =>
    cases made : SessionRow.ofValues user token with
    | error _ =>
      simp only [replay, effect?, made]
      exact distinct
    | ok row =>
      simp only [replay, effect?, made]
      by_cases taken : ∃ old ∈ table, old.clashes row
      · rw [if_pos taken]
        exact distinct
      · rw [if_neg taken]
        exact SessionTable.insert_distinct distinct (if_neg taken)
  | fail _ => exact distinct

theorem replayAll_distinct (actions : List Action) {table : SessionTable}
    (distinct : table.Distinct) : (replayAll actions table).Distinct := by
  induction actions generalizing table with
  | nil => exact distinct
  | cons action rest ih => exact ih (replay_distinct distinct action)

end Action

/-- What is seen in a request after given actions, on a disk where requests were carried out
before. -/
def Database.seen (disk : Database) (history : List Transaction) (actions : List Action) :
    Database :=
  (Action.performAll actions (Transaction.runAll history disk).2).2

/-- **Every table that is reached has distinct tokens**, also in the middle of a request. -/
theorem Database.exists_seen (users : Option UserTable) {start : SessionTable}
    (distinct : start.Distinct) (history : List Transaction) (actions : List Action) :
    ∃ table : SessionTable, Database.seen ⟨users, some start⟩ history actions =
      ⟨users, some table⟩ ∧ table.Distinct := by
  let disk := (Transaction.runAll history ⟨users, some start⟩).2
  have onDisk : disk.sessions =
      some (Action.replayAll (Transaction.committedActions history) start) :=
    Transaction.sessions_runAll history _
  obtain ⟨-, sessions, usersKept⟩ := Action.performAll_follow actions disk
  rw [onDisk, Option.map_some] at sessions
  have reached := Action.replayAll_distinct actions
    (Action.replayAll_distinct (Transaction.committedActions history) distinct)
  refine ⟨_, ?_, reached⟩
  calc Database.seen ⟨users, some start⟩ history actions
      = ⟨(Action.performAll actions disk).2.users,
          (Action.performAll actions disk).2.sessions⟩ := rfl
    _ = ⟨users, some _⟩ := by
        rw [sessions, usersKept, Transaction.users_runAll]

namespace Revocation

/-! ### One revocation -/

/-- What says which sessions are revoked. -/
inductive Key where
  | ofUser (id : Uuid)
  | ofToken (token : String)

namespace Key

/-- The revocation with a key. -/
def action : Key → Action
  | ofUser id => .call (.revokeAll id)
  | ofToken token => .call (.revoke token)

/-- Whether a row is one of those with a key. -/
def Takes : Key → SessionRow → Prop
  | ofUser id, row => row.user = .blob id.bytes
  | ofToken token, row => row.token = .text token

instance (key : Key) (row : SessionRow) : Decidable (key.Takes row) :=
  match key with
  | ofUser id => decEq row.user (.blob id.bytes)
  | ofToken token => decEq row.token (.text token)

/-- What is logged when so many rows are taken: the number, and of the key the user, not the token. -/
def entry : Key → Nat → Log.Entry
  | ofUser id, count =>
    ⟨.info, "Sessions revoked for user", [("user_id", .text id.text), ("rowcount", .int count)]⟩
  | ofToken _, count => ⟨.debug, "Session revoked", [("rowcount", .int count)]⟩

/-- The report that so many rows were taken: the number is returned and logged. -/
def report (key : Key) (count : Nat) : Report (Call.Result User) :=
  ⟨.ok (.count count), [key.entry count]⟩

/-- What a revocation does to a table. -/
structure Removes (key : Key) (users : Option UserTable) (table left : SessionTable)
    (count : Nat) : Prop where
  performed : key.action.perform ⟨users, some table⟩ = (key.report count, ⟨users, some left⟩)
  /-- The rows without the key stay, as they are and in order. -/
  kept : left = table.filter fun row => ¬ key.Takes row
  counted : left.length + count = table.length
  /-- A token takes one row at most. -/
  single : ∀ token, key = .ofToken token → count ≤ 1
  again : key.action.perform ⟨users, some left⟩ = (key.report 0, ⟨users, some left⟩)

/-- The rows that a revocation leaves. -/
def left (key : Key) (table : SessionTable) : SessionTable :=
  table.filter fun row => ¬ key.Takes row

/-- How many rows a revocation takes. -/
def taken (key : Key) (table : SessionTable) : Nat :=
  table.countP fun row => key.Takes row

variable {key : Key} {table : SessionTable}

/-- **A revocation takes the rows with its key**, and tells how many they are. -/
theorem perform_action (key : Key) (users : Option UserTable) (table : SessionTable) :
    key.action.perform ⟨users, some table⟩ =
      (key.report (key.taken table), ⟨users, some (key.left table)⟩) := by
  simp only [left, decide_not]
  cases key <;> rfl

theorem length_left_add_taken (key : Key) (table : SessionTable) :
    (key.left table).length + key.taken table = table.length := by
  have both := List.length_eq_countP_add_countP (fun row => decide (key.Takes row)) (l := table)
  simp only [decide_eq_true_eq] at both
  rw [left, ← List.countP_eq_length_filter, taken, both, Nat.add_comm]

/-- **Where the tokens are distinct, a token takes one row at most.** -/
theorem taken_ofToken_le_one (distinct : table.Distinct) (token : String) :
    (ofToken token).taken table ≤ 1 := by
  unfold taken
  rw [List.countP_eq_length_filter]
  have apart : (table.filter fun row => (ofToken token).Takes row).Pairwise
      fun first second => ¬ first.clashes second := List.Pairwise.filter _ distinct
  have alike : ∀ row ∈ table.filter fun row => (ofToken token).Takes row,
      row.token = .text token := by
    intro row member
    exact of_decide_eq_true (List.mem_filter.mp member).2
  match table.filter fun row => (ofToken token).Takes row, apart, alike with
  | [], _, _ => exact Nat.zero_le 1
  | [_], _, _ => exact Nat.le_refl 1
  | first :: second :: _, apart, alike =>
    have clash : first.clashes second := by
      unfold SessionRow.clashes
      rw [alike first (by simp), alike second (by simp)]
      exact beq_self_eq_true token
    exact absurd clash (List.rel_of_pairwise_cons apart (by simp))

/-- Nothing with the key is left, so a second revocation with it takes nothing. -/
theorem left_left (key : Key) (table : SessionTable) :
    key.left (key.left table) = key.left table := by
  simp only [left, List.filter_filter, Bool.and_self]

theorem taken_left (key : Key) (table : SessionTable) : key.taken (key.left table) = 0 := by
  have total := length_left_add_taken key (key.left table)
  rw [left_left] at total
  omega

/-- **A revocation takes exactly what it should**, where the tokens are distinct. -/
theorem removes (key : Key) (users : Option UserTable) (distinct : table.Distinct) :
    key.Removes users table (key.left table) (key.taken table) where
  performed := perform_action key users table
  kept := rfl
  counted := length_left_add_taken key table
  single := by
    rintro token rfl
    exact taken_ofToken_le_one distinct token
  again := by rw [perform_action, left_left, taken_left]

end Key

/-! ### Revocations in turn -/

/-- What revocations in turn do to a table. -/
structure RemoveAll (keys : List Key) (users : Option UserTable) (table left : SessionTable)
    (counts : List Nat) : Prop where
  /-- There is one report for each revocation. -/
  reports : (Action.performAll (keys.map Key.action) ⟨users, some table⟩).1.map Prod.fst =
    List.zipWith Key.report keys counts
  length_counts : counts.length = keys.length
  final : (Action.performAll (keys.map Key.action) ⟨users, some table⟩).2 = ⟨users, some left⟩
  kept : left = table.filter fun row => ∀ key ∈ keys, ¬ key.Takes row
  counted : left.length + counts.sum = table.length

variable {keys others : List Key} {users : Option UserTable} {table left otherLeft : SessionTable}
  {counts otherCounts : List Nat}

theorem removeAll_nil : RemoveAll [] users table table [] where
  reports := rfl
  length_counts := rfl
  final := rfl
  kept := by simp
  counted := rfl

/-- One more revocation, before the others. -/
theorem RemoveAll.cons (key : Key) (rest : RemoveAll keys users (key.left table) left counts) :
    RemoveAll (key :: keys) users table left (key.taken table :: counts) where
  reports := by
    rw [List.map_cons, Action.performAll, Key.perform_action, List.map_cons, rest.reports]
    rfl
  length_counts := congrArg Nat.succ rest.length_counts
  final := by
    rw [List.map_cons, Action.performAll, Key.perform_action]
    exact rest.final
  kept := by
    rw [rest.kept, Key.left, List.filter_filter]
    refine List.filter_congr fun row _ => ?_
    simp only [List.forall_mem_cons, Bool.decide_and]
    exact Bool.and_comm _ _
  counted := by
    have here := key.length_left_add_taken table
    have there := rest.counted
    rw [List.sum_cons]
    omega

/-- **Revocations in turn leave the rows that no key takes**, and count all the others. -/
theorem exists_removeAll (keys : List Key) (users : Option UserTable) (table : SessionTable) :
    ∃ left counts, RemoveAll keys users table left counts := by
  induction keys generalizing table with
  | nil => exact ⟨table, [], removeAll_nil⟩
  | cons key rest ih =>
    obtain ⟨left, counts, removed⟩ := ih (key.left table)
    exact ⟨left, _, removed.cons key⟩

/-- **The order of revocations makes no difference** to the rows that are left and to the total. -/
theorem RemoveAll.eq_of_perm (removed : RemoveAll keys users table left counts)
    (otherwise : RemoveAll others users table otherLeft otherCounts) (same : keys.Perm others) :
    otherLeft = left ∧ otherCounts.sum = counts.sum := by
  have rows : otherLeft = left := by
    rw [removed.kept, otherwise.kept]
    refine List.filter_congr fun row _ => ?_
    simp only [same.mem_iff]
  refine ⟨rows, ?_⟩
  have total := removed.counted.trans otherwise.counted.symm
  rw [rows] at total
  exact (Nat.add_left_cancel total).symm

/-- **Revocations remove exactly what they should, in any order.** Every table that is reached from
one with distinct tokens has distinct tokens again, whatever requests have been carried out and
whatever the present one has done so far; one revocation there takes the rows with its key and no
others; and revocations in another order leave the same table and take as many rows together. -/
theorem revocations_remove_exactly (users : Option UserTable) (start : SessionTable)
    (distinct : start.Distinct) (history : List Transaction) (actions : List Action) :
    ∃ table : SessionTable,
      Database.seen ⟨users, some start⟩ history actions = ⟨users, some table⟩ ∧
      table.Distinct ∧
      (∀ key : Key, ∃ left count, key.Removes users table left count) ∧
      ∀ keys others : List Key, keys.Perm others → ∃ left counts otherCounts,
        RemoveAll keys users table left counts ∧ RemoveAll others users table left otherCounts ∧
          otherCounts.sum = counts.sum := by
  obtain ⟨table, reached, apart⟩ := Database.exists_seen users distinct history actions
  refine ⟨table, reached, apart, fun key => ⟨_, _, key.removes users apart⟩,
    fun keys others same => ?_⟩
  obtain ⟨left, counts, removed⟩ := exists_removeAll keys users table
  obtain ⟨otherLeft, otherCounts, otherwise⟩ := exists_removeAll others users table
  obtain ⟨rfl, total⟩ := removed.eq_of_perm otherwise same
  exact ⟨_, counts, otherCounts, removed, otherwise, total⟩

/-- A row has a user and a token that are both revoked. It counts for the one that is revoked first, in
what is returned and in what is logged; the row that has the text of the identifier stays. -/
theorem shared_row_counts_once :
    let id : Uuid := ⟨List.replicate 16 7, rfl⟩
    let session (token : String) : SessionRow := ⟨.blob id.bytes, .text token⟩
    let other : SessionRow := ⟨.text id.text, .text "c"⟩
    let start : SessionTable := [session "a", other]
    let history : List Transaction := [
      ⟨.direct, [.insertSession (.bytes .string id.bytes) (.text "b")], none⟩,
      ⟨.wrapped, [.call (.revoke "b")], some (.cancelled "")⟩]
    let byUser := Key.ofUser id
    let byToken := Key.ofToken "b"
    let seen := Database.seen ⟨none, some start⟩ history []
    let outcomes (keys : List Key) :=
      (Action.performAll (keys.map Key.action) seen).1.map fun step => step.1.outcome
    let entries (keys : List Key) :=
      (Action.performAll (keys.map Key.action) seen).1.flatMap fun step => step.1.entries
    let userEntry (count : Int) : Log.Entry :=
      ⟨.info, "Sessions revoked for user", [("user_id", .text id.text), ("rowcount", .int count)]⟩
    let tokenEntry (count : Int) : Log.Entry :=
      ⟨.debug, "Session revoked", [("rowcount", .int count)]⟩
    start.Distinct ∧ [byUser, byToken].Perm [byToken, byUser] ∧
      outcomes [byUser, byToken] = [.ok (.count 2), .ok (.count 0)] ∧
      entries [byUser, byToken] = [userEntry 2, tokenEntry 0] ∧
      outcomes [byToken, byUser] = [.ok (.count 1), .ok (.count 1)] ∧
      entries [byToken, byUser] = [tokenEntry 1, userEntry 1] ∧
      (Action.performAll [byUser.action, byToken.action] seen).2 = ⟨none, some [other]⟩ ∧
      (Action.performAll [byToken.action, byUser.action] seen).2 = ⟨none, some [other]⟩ := by
  intro id session other start history byUser byToken seen outcomes entries userEntry tokenEntry
  have distinct : start.Distinct := by
    unfold SessionTable.Distinct
    decide
  have swapped : [byUser, byToken].Perm [byToken, byUser] := List.Perm.swap _ _ _
  obtain ⟨table, reached, -, -, anyOrder⟩ :=
    revocations_remove_exactly none start distinct history []
  obtain ⟨left, counts, otherCounts, removed, otherwise, -⟩ := anyOrder _ _ swapped
  have userFirst : (Action.performAll [byUser.action, byToken.action] seen).2 =
      ⟨none, some [other]⟩ := rfl
  have sameTable : (Action.performAll [byToken.action, byUser.action] seen).2 =
      (Action.performAll [byUser.action, byToken.action] seen).2 := by
    rw [show seen = ⟨none, some table⟩ from reached]
    exact otherwise.final.trans removed.final.symm
  exact ⟨distinct, swapped, rfl, rfl, rfl, rfl, userFirst, sameTable.trans userFirst⟩

end Revocation

end SignIn

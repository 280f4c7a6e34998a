/-
**Refresh tokens only tell rows apart.**

A second run has every text token under another name: in the table that the run starts from, in the
revocations and in the insertions. As long as the renaming is injective, the two runs cannot be told
apart by what they report, count or log, and their tables differ by the renaming only. Each part of
a run is shown to commute with the renaming, from a cell up to a history:

* `Cell.equals_renameText`, `SessionRow.ofToken_renameToken`: the two questions that are ever asked
  about a token are whether it equals another one and whether it is the one to be revoked;
* `SessionTable.insert_renameTokens`, `SessionTable.revoke_renameTokens`: so the same insertions are
  refused, and as many rows are revoked;
* `Action.perform_renameToken`: one action reports the same and leaves the renamed database;
* `Transaction.run_renameTokens`: so does a request, whether it is committed or rolled back;
* `Transaction.tokens_tell_rows_apart`: so do histories; and a revocation logs no more than it
  reports.
-/

import Mathlib.Logic.Equiv.Basic
import SignIn.Proofs.Transaction

namespace SignIn

/-! ### Renaming -/

section Renaming

variable (rename : String → String)

/-- A cell with its text renamed. -/
def Cell.renameText : Cell → Cell
  | text content => text (rename content)
  | other => other

/-- A value with its text renamed. -/
def Value.renameText : Value → Value
  | text content => text (rename content)
  | other => other

/-- A session with its token renamed; the user keeps its name. -/
def SessionRow.renameToken (row : SessionRow) : SessionRow :=
  { row with token := row.token.renameText rename }

def SessionTable.renameTokens (table : SessionTable) : SessionTable :=
  table.map (SessionRow.renameToken rename)

def Database.renameTokens (database : Database) : Database :=
  { database with sessions := database.sessions.map (SessionTable.renameTokens rename) }

def Statement.renameToken : Statement → Statement
  | revokeByToken token => revokeByToken (rename token)
  | other => other

def Call.renameToken : Call → Call
  | revoke token => revoke (rename token)
  | other => other

def Action.renameToken : Action → Action
  | call request => call (request.renameToken rename)
  | insertSession user token => insertSession user (token.renameText rename)
  | fail failure => fail failure

namespace Transaction

def renameTokens (request : Transaction) : Transaction :=
  { request with actions := request.actions.map (Action.renameToken rename) }

/-- A step with the tokens in its table renamed; the report stays as it is. -/
def renameStep (step : Report (Call.Result User) × Option SessionTable) :
    Report (Call.Result User) × Option SessionTable :=
  (step.1, step.2.map (SessionTable.renameTokens rename))

/-- What is seen of a request, with the tokens in all tables renamed. -/
def Record.renameTokens (record : Record) : Record :=
  ⟨record.steps.map (renameStep rename), record.ending,
    record.committed.map (SessionTable.renameTokens rename)⟩

end Transaction

end Renaming

variable {rename : String → String}

/-! ### Rows -/

/-- **Renaming texts makes no two cells equal or different.** -/
theorem Cell.equals_renameText (injective : Function.Injective rename) (first second : Cell) :
    (first.renameText rename).equals (second.renameText rename) = first.equals second := by
  cases first with
  | text content =>
    cases second with
    | text other => exact injective.beq_eq
    | _ => rfl
  | _ => cases second <;> rfl

theorem Cell.ofValue_renameText (value : Value) :
    Cell.ofValue (value.renameText rename) = (Cell.ofValue value).map (Cell.renameText rename) := by
  cases value with
  | int value =>
    show (if _ then _ else _) = Except.map _ (if _ then _ else _)
    split <;> rfl
  | float shortest =>
    show Except.ok (if _ then _ else _) = Except.ok (renameText rename (if _ then _ else _))
    split <;> rfl
  | _ => rfl

namespace SessionRow

theorem clashes_renameToken (injective : Function.Injective rename) (first second : SessionRow) :
    (first.renameToken rename).clashes (second.renameToken rename) ↔ first.clashes second := by
  unfold clashes
  rw [show (first.renameToken rename).token = first.token.renameText rename from rfl,
    show (second.renameToken rename).token = second.token.renameText rename from rfl,
    Cell.equals_renameText injective]

/-- **The renamed token revokes the renamed row.** -/
theorem ofToken_renameToken (injective : Function.Injective rename) (token : String)
    (row : SessionRow) : (row.renameToken rename).ofToken (rename token) = row.ofToken token := by
  obtain ⟨user, kept⟩ := row
  cases kept with
  | text content =>
    show (Cell.text (rename content) == Cell.text (rename token)) =
      (Cell.text content == Cell.text token)
    rw [Bool.eq_iff_iff, beq_iff_eq, beq_iff_eq, Cell.text.injEq, Cell.text.injEq, injective.eq_iff]
  | _ => rfl

theorem ofValues_renameText (user token : Value) :
    ofValues user (token.renameText rename) = (ofValues user token).map (renameToken rename) := by
  unfold ofValues
  rw [Cell.ofValue_renameText]
  cases Cell.ofValue user <;> cases Cell.ofValue token <;> rfl

end SessionRow

/-! ### Tables -/

namespace SessionTable

/-- **A renamed table refuses the renamed rows that it refused before.** -/
theorem insert_renameTokens (injective : Function.Injective rename) (table : SessionTable)
    (row : SessionRow) : (table.renameTokens rename).insert (row.renameToken rename) =
      (table.insert row).map (renameTokens rename) := by
  have clash : (∃ old ∈ table.renameTokens rename, old.clashes (row.renameToken rename)) ↔
      ∃ old ∈ table, old.clashes row := by
    unfold renameTokens
    simp only [List.mem_map, exists_exists_and_eq_and, SessionRow.clashes_renameToken injective]
  unfold insert
  by_cases taken : ∃ old ∈ table, old.clashes row
  · rw [if_pos taken, if_pos (clash.mpr taken)]
    rfl
  · rw [if_neg taken, if_neg (mt clash.mp taken)]
    simp [Except.map, renameTokens]

/-- **A renamed table loses the same rows, and as many.** -/
theorem revoke_renameTokens (table : SessionTable) {doomed renamed : SessionRow → Bool}
    (same : ∀ row, renamed (row.renameToken rename) = doomed row) :
    (table.renameTokens rename).revoke renamed =
      ((table.revoke doomed).1.renameTokens rename, (table.revoke doomed).2) := by
  have here : renamed ∘ SessionRow.renameToken rename = doomed := funext same
  have left : (fun row => !renamed row) ∘ SessionRow.renameToken rename = fun row => !doomed row :=
    funext fun row => congrArg not (same row)
  unfold revoke renameTokens
  rw [List.filter_map, List.countP_map, here, left]

end SessionTable

namespace Database

variable (database : Database)

theorem revoke_renameTokens {doomed renamed : SessionRow → Bool}
    (same : ∀ row, renamed (row.renameToken rename) = doomed row) :
    (database.renameTokens rename).revoke renamed =
      (database.revoke doomed).map fun result => (result.1, result.2.renameTokens rename) := by
  obtain ⟨users, _ | table⟩ := database
  · rfl
  · have revoked := table.revoke_renameTokens same
    simp only [revoke, renameTokens, Option.map_some, revoked]
    rfl

theorem insertSession_renameTokens (injective : Function.Injective rename) (user token : Value) :
    (database.renameTokens rename).insertSession user (token.renameText rename) =
      (database.insertSession user token).map (renameTokens rename) := by
  obtain ⟨users, _ | table⟩ := database
  · rfl
  simp only [insertSession, renameTokens, Option.map_some, SessionRow.ofValues_renameText]
  cases SessionRow.ofValues user token with
  | error failure => rfl
  | ok row =>
    have inserted := table.insert_renameTokens injective row
    simp only [bind, Except.bind, Except.map, inserted]
    cases table.insert row <;> rfl

/-- **A change with its token renamed affects as many rows and leaves the renamed database.** -/
theorem affected_renameToken (injective : Function.Injective rename) (statement : Statement) :
    (storage.affected (statement.renameToken rename)).run (database.renameTokens rename) =
      (((storage.affected statement).run database).1,
        ((storage.affected statement).run database).2.renameTokens rename) := by
  have changed : (database.renameTokens rename).change (statement.renameToken rename) =
      (database.change statement).map fun result =>
        (result.1, result.2.renameTokens rename) := by
    cases statement with
    | revokeByUser id => exact database.revoke_renameTokens fun row => rfl
    | revokeByToken token =>
      exact database.revoke_renameTokens (SessionRow.ofToken_renameToken injective token)
    | _ => rfl
  simp only [storage, StateT.run, changed]
  cases database.change statement <;> rfl

end Database

/-! ### Actions -/

namespace Action

/-- An inquiry reads the users, who keep their names. -/
theorem run_inquiry_renameTokens (inquiry : Inquiry) (database : Database) :
    (inquiry.run (Directory.ofStorage Database.storage)).run (database.renameTokens rename) =
      (((inquiry.run (Directory.ofStorage Database.storage)).run database).1,
        database.renameTokens rename) := by
  cases inquiry with
  | direct question => cases question <;> rfl
  | _ => rfl

/-- What a revocation reports, and the database after it, once the change is carried out. -/
def concludeRevocation (entry : Int → Log.Entry) (answer : Except Failure Int × Database) :
    Report (Call.Result User) × Database :=
  ((Revocation.reportCount entry answer.1).map .count, answer.2)

/-- **An action with its token renamed reports the same and leaves the renamed database.** -/
theorem perform_renameToken (injective : Function.Injective rename) (action : Action)
    (database : Database) :
    (action.renameToken rename).perform (database.renameTokens rename) =
      ((action.perform database).1, (action.perform database).2.renameTokens rename) := by
  cases action with
  | fail failure => rfl
  | insertSession user token =>
    have inserted := database.insertSession_renameTokens injective user token
    simp only [renameToken, perform, inserted]
    cases database.insertSession user token <;> rfl
  | call request =>
    cases request with
    | inquire inquiry =>
      have unchanged := run_inquiry_snd inquiry database
      show (inquiry.run (Directory.ofStorage Database.storage)).run _ = (_, Database.renameTokens _
        ((inquiry.run (Directory.ofStorage Database.storage)).run database).2)
      rw [run_inquiry_renameTokens, unchanged]
      rfl
    | revokeAll id =>
      have affected := database.affected_renameToken injective (.revokeByUser id)
      exact congrArg (concludeRevocation (Revocation.userEntry id)) affected
    | revoke token =>
      have affected := database.affected_renameToken injective (.revokeByToken token)
      exact congrArg (concludeRevocation Revocation.tokenEntry) affected

theorem performAll_renameTokens (injective : Function.Injective rename) (actions : List Action)
    (database : Database) :
    performAll (actions.map (renameToken rename)) (database.renameTokens rename) =
      ((performAll actions database).1.map (Transaction.renameStep rename),
        (performAll actions database).2.renameTokens rename) := by
  induction actions generalizing database with
  | nil => rfl
  | cons action rest ih =>
    simp only [List.map_cons, performAll, perform_renameToken injective, ih]
    rfl

end Action

/-! ### Requests -/

namespace Transaction

/-- **A request with its tokens renamed shows the same and leaves the renamed database**, also when
what it has done is rolled back. -/
theorem run_renameTokens (injective : Function.Injective rename) (request : Transaction)
    (database : Database) :
    (request.renameTokens rename).run (database.renameTokens rename) =
      ((request.run database).1.renameTokens rename,
        (request.run database).2.renameTokens rename) := by
  have performed := Action.performAll_renameTokens injective request.actions database
  rw [run_eq, run_eq]
  simp only [renameTokens, performed]
  cases request.ending <;> rfl

theorem runAll_renameTokens (injective : Function.Injective rename) (history : List Transaction)
    (database : Database) :
    runAll (history.map (renameTokens rename)) (database.renameTokens rename) =
      ((runAll history database).1.map (Record.renameTokens rename),
        (runAll history database).2.renameTokens rename) := by
  induction history generalizing database with
  | nil => rfl
  | cons request rest ih =>
    rw [List.map_cons, runAll_cons, run_renameTokens injective, ih, runAll_cons]
    rfl

end Transaction

/-! ### What a revocation logs -/

namespace Revocation

theorem outcome_reportCount (entry : Int → Log.Entry) (answer : Except Failure Int) :
    (reportCount entry answer).outcome = answer := by
  cases answer <;> rfl

/-- **A revocation by token logs no more than it reports**, whatever storage it is sent to. -/
theorem entries_ofToken_eq {σ : Type} (storage : Storage (StateM σ)) {token other : String}
    {state later : σ} (same : ((ofToken storage token).run state).1.outcome =
      ((ofToken storage other).run later).1.outcome) :
    ((ofToken storage token).run state).1.entries =
      ((ofToken storage other).run later).1.entries := by
  have report : ∀ token state, ((ofToken storage token).run state).1 =
      reportCount tokenEntry ((storage.affected (.revokeByToken token)).run state).1 :=
    fun _ _ => rfl
  rw [report, report, outcome_reportCount, outcome_reportCount] at same
  rw [report, report, same]

end Revocation

namespace Transaction

/-- **Refresh tokens only tell rows apart.** Histories whose tokens are renamed by an injective
renaming show the same reports with the same counts, failures and log entries, and tables that are
renamed in the same way. What a revocation by token logs depends on what it reports, not on the
token. -/
theorem tokens_tell_rows_apart :
    (∀ rename : String → String, Function.Injective rename →
      ∀ (history : List Transaction) (database : Database),
        runAll (history.map (renameTokens rename)) (database.renameTokens rename) =
          ((runAll history database).1.map (Record.renameTokens rename),
            (runAll history database).2.renameTokens rename)) ∧
    ∀ {σ : Type} (storage : Storage (StateM σ)) (token other : String) (state later : σ),
      let first := ((Revocation.ofToken storage token).run state).1
      let second := ((Revocation.ofToken storage other).run later).1
      first.outcome = second.outcome → first.entries = second.entries := by
  refine ⟨fun rename injective history database => ?_, fun storage token other state later => ?_⟩
  · exact runAll_renameTokens injective history database
  · exact Revocation.entries_ofToken_eq storage

/-- Two tokens exchanged: the same insertion is refused, the other row is left in the end. -/
theorem exchanged_tokens_leave_other_row :
    let rename : String → String := Equiv.swap "a" "b"
    let insert (user token : String) : Action := .insertSession (.text user) (.text token)
    let history : List Transaction := [
      ⟨.direct, [insert "u" "a", insert "v" "b", insert "w" "a"], none⟩,
      ⟨.wrapped, [.call (.revoke "a")], some (.cancelled "")⟩,
      ⟨.wrapped, [.call (.revoke "b")], none⟩]
    let database : Database := ⟨none, some []⟩
    Function.Injective rename ∧
      (runAll history database).2.sessions = some [⟨.text "u", .text "a"⟩] ∧
      (runAll (history.map (renameTokens rename)) database).2.sessions =
        some [⟨.text "u", .text "b"⟩] ∧
      (runAll (history.map (renameTokens rename)) database).1.map (·.steps.map Prod.fst) =
        (runAll history database).1.map (·.steps.map Prod.fst) := by
  intro rename insert history database
  have injective : Function.Injective rename := (Equiv.swap "a" "b").injective
  have renamed := tokens_tell_rows_apart.1 rename injective history database
  have started : database.renameTokens rename = database := rfl
  have kept : (runAll history database).2.sessions = some [⟨.text "u", .text "a"⟩] := rfl
  rw [started] at renamed
  refine ⟨injective, kept, ?_, ?_⟩
  · rw [renamed]
    show Option.map _ (runAll history database).2.sessions = _
    rw [kept]
    rfl
  · rw [renamed]
    rfl

end Transaction

end SignIn

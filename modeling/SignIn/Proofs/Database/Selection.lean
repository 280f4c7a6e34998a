/-
**Rows that a query finds.**

A query for the rows with a cell in a column gives them in table order, and the first of them is
the first row of the table that has the cell (`head?_select`). Columns are found without regard
to case, and the values of a row are named exactly; since no two columns of a table differ in case
only, a named value is the one that was compared (`cell?_of_lookup_named`).
-/

import SignIn.Database

namespace SignIn

theorem sameColumn_self (column : String) : sameColumn column column = true :=
  beq_self_eq_true _

theorem sameColumn_comm (first second : String) :
    sameColumn first second = sameColumn second first :=
  Bool.beq_comm

namespace UserTable

/-- A row is the first of a table that has a cell in a column. -/
def FirstWith (table : UserTable) (column : String) (cell : Cell) (row : List Cell) : Prop :=
  ∃ before behind, table.rows = before ++ row :: behind ∧
    (∀ earlier ∈ before, table.cell? column earlier ≠ some cell) ∧
    table.cell? column row = some cell

variable {table : UserTable} {column : String} {cell : Cell} {row : List Cell}

theorem holds_iff : table.holds column cell row = true ↔ table.cell? column row = some cell :=
  beq_iff_eq

theorem firstWith_iff :
    table.FirstWith column cell row ↔ table.rows.find? (table.holds column cell) = some row := by
  rw [List.find?_eq_some_iff_append]
  unfold FirstWith
  constructor
  · rintro ⟨before, behind, parts, others, found⟩
    refine ⟨holds_iff.mpr found, before, behind, parts, fun earlier member => ?_⟩
    rw [Bool.not_eq_true', ← Bool.not_eq_true, holds_iff]
    exact others earlier member
  · rintro ⟨found, before, behind, parts, others⟩
    refine ⟨before, behind, parts, fun earlier member => ?_, holds_iff.mp found⟩
    rw [ne_eq, ← holds_iff, Bool.not_eq_true, ← Bool.not_eq_true']
    exact others earlier member

theorem find?_eq_none_iff :
    table.rows.find? (table.holds column cell) = none ↔
      ∀ row ∈ table.rows, table.cell? column row ≠ some cell := by
  rw [List.find?_eq_none]
  exact forall₂_congr fun row _ => not_congr holds_iff

/-- **The first row that a query finds is the first row of the table with the cell.** -/
theorem head?_select {rows : List (List Cell)} (selected : table.select column cell = .ok rows) :
    rows.head? = table.rows.find? (table.holds column cell) := by
  unfold select at selected
  split at selected
  · cases selected
    exact List.head?_filter
  · cases selected

/-- A name among columns that is found exactly is found without regard to case, at the same place. -/
theorem find?_of_lookup {columns : List String} {row : List Cell} {value : Value}
    (distinct : columns.Pairwise fun first second => sameColumn first second = false)
    (named : (columns.zip (row.map Cell.value)).lookup column = some value) :
    column ∈ columns ∧ ∃ cell, cell.value = value ∧
      ((columns.zip row).find? fun entry => sameColumn column entry.1) = some (column, cell) := by
  induction columns generalizing row with
  | nil => cases named
  | cons first rest ih =>
    cases row with
    | nil => cases named
    | cons cell cells =>
      rw [List.pairwise_cons] at distinct
      rw [List.map_cons, List.zip_cons_cons, List.lookup_cons] at named
      by_cases here : column = first
      · subst here
        rw [beq_self_eq_true] at named
        refine ⟨List.mem_cons_self, cell, Option.some.inj named, ?_⟩
        rw [List.zip_cons_cons]
        exact List.find?_cons_of_pos (sameColumn_self column)
      · rw [beq_false_of_ne here] at named
        obtain ⟨member, found, value_eq, place⟩ := ih distinct.2 named
        have differ : sameColumn column first = false := by
          rw [sameColumn_comm]
          exact distinct.1 column member
        refine ⟨List.mem_cons_of_mem first member, found, value_eq, ?_⟩
        rw [List.zip_cons_cons, List.find?_cons_of_neg (by simp [differ])]
        exact place

/-- **A named value is the one that was compared.** -/
theorem cell?_of_lookup_named {value : Value}
    (named : (table.named row).lookup column = some value) :
    ∃ cell, table.cell? column row = some cell ∧ cell.value = value := by
  obtain ⟨-, cell, value_eq, place⟩ := find?_of_lookup table.distinct_columns named
  refine ⟨cell, ?_, value_eq⟩
  unfold cell?
  rw [place]
  rfl

/-- A value that is found under a name stands in a column of that name. -/
theorem hasColumn_of_lookup_named {value : Value}
    (named : (table.named row).lookup column = some value) : table.hasColumn column = true := by
  obtain ⟨member, -⟩ := find?_of_lookup table.distinct_columns named
  exact List.any_eq_true.mpr ⟨column, member, sameColumn_self column⟩

theorem select_of_hasColumn (cell : Cell) (known : table.hasColumn column = true) :
    table.select column cell = .ok (table.rows.filter (table.holds column cell)) :=
  if_pos known

theorem select_of_not_hasColumn (cell : Cell) (unknown : table.hasColumn column = false) :
    table.select column cell = .error .operational :=
  if_neg (ne_true_of_eq_false unknown)

end UserTable

end SignIn

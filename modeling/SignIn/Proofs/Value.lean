/-
**Values that cannot be shown.**

An integer may have more digits than are ever written. What that means for a value of any type is said
without the printer (`Unshowable`):

* `shown?_eq_none_iff`: a value is not shown exactly if an integer of too many digits stands in it;
* `hasTooManyDigits_of_small`, `hasTooManyDigits_pow`: no integer of a machine word has too many, and a
  large power of ten has.
-/

import Mathlib.Algebra.Group.Nat.Defs
import SignIn.Value

namespace SignIn.Value

/-- A value that cannot be shown: an integer of more than 4300 digits, or a list or a record with such a
value in it, however deep. -/
inductive Unshowable : Value → Prop where
  | int {number : Int} (long : 4300 < (Nat.toDigits 10 number.natAbs).length) :
      Unshowable (.int number)
  | item {items : List Value} {item : Value} (inside : item ∈ items) (unshowable : Unshowable item) :
      Unshowable (.list items)
  | field {fields : List (String × Value)} {name : String} {value : Value}
      (inside : (name, value) ∈ fields) (unshowable : Unshowable value) : Unshowable (.record fields)

/-! ### Integers -/

theorem hasTooManyDigits_iff {number : Int} :
    hasTooManyDigits number = true ↔ 4300 < (Nat.toDigits 10 number.natAbs).length :=
  decide_eq_true_iff

theorem shownInt?_eq_none_iff {number : Int} :
    shownInt? number = none ↔ Unshowable (.int number) := by
  unfold shownInt?
  constructor
  · intro hidden
    split at hidden
    · rename_i long
      exact .int (hasTooManyDigits_iff.mp long)
    · cases hidden
  · rintro ⟨long⟩
    exact if_pos (hasTooManyDigits_iff.mpr long)

/-- **An integer of at most nineteen digits has not too many.** -/
theorem hasTooManyDigits_of_small {number : Int} (small : number.natAbs < 10 ^ 19) :
    hasTooManyDigits number = false := by
  have short := (Nat.length_toDigits_le_iff (by decide) (by decide)).mpr small
  have few : 19 ≤ Number.Numeral.maxDigits := by decide
  exact decide_eq_false (by omega)

/-- **A power of ten has one digit more than its exponent says.** -/
theorem hasTooManyDigits_pow {exponent : Nat} (large : 4300 ≤ exponent) :
    hasTooManyDigits (10 ^ exponent : Nat) = true := by
  have long : ¬ (Nat.toDigits 10 (10 ^ exponent)).length ≤ exponent := by
    rw [Nat.length_toDigits_le_iff (by decide) (by omega)]
    exact Nat.lt_irrefl _
  rw [hasTooManyDigits_iff, Int.natAbs_natCast]
  omega

/-! ### Values of any type -/

theorem unshowable_list_iff {items : List Value} :
    Unshowable (.list items) ↔ ∃ item ∈ items, Unshowable item := by
  constructor
  · intro unshowable
    cases unshowable with
    | item inside unshowable => exact ⟨_, inside, unshowable⟩
  · rintro ⟨item, inside, unshowable⟩
    exact .item inside unshowable

theorem unshowable_record_iff {fields : List (String × Value)} :
    Unshowable (.record fields) ↔ ∃ field ∈ fields, Unshowable field.2 := by
  constructor
  · intro unshowable
    cases unshowable with
    | field inside unshowable => exact ⟨_, inside, unshowable⟩
  · rintro ⟨field, inside, unshowable⟩
    exact .field inside unshowable

theorem shown?_list_eq_none_iff {items : List Value} :
    (list items).shown? = none ↔ shownItems? items = none := by
  cases shown : shownItems? items <;> simp [shown?, shown]

theorem shown?_record_eq_none_iff {fields : List (String × Value)} :
    (record fields).shown? = none ↔ shownFields? fields = none := by
  cases shown : shownFields? fields <;> simp [shown?, shown]

mutual

/-- **A value is not shown exactly if an integer of too many digits stands in it.** -/
theorem shown?_eq_none_iff : (value : Value) → (value.shown? = none ↔ value.Unshowable)
  | .null | .bool _ | .float _ | .text _ | .bytes _ _ | .uuid _ => iff_of_false nofun nofun
  | .int _ => shownInt?_eq_none_iff
  | .list items => by
    rw [shown?_list_eq_none_iff, unshowable_list_iff]
    exact shownItems?_eq_none_iff items
  | .record fields => by
    rw [shown?_record_eq_none_iff, unshowable_record_iff]
    exact shownFields?_eq_none_iff fields

theorem shownItems?_eq_none_iff :
    (items : List Value) → (shownItems? items = none ↔ ∃ item ∈ items, item.Unshowable)
  | [] => iff_of_false nofun nofun
  | item :: rest => by
    simp only [List.mem_cons, exists_eq_or_imp, ← shown?_eq_none_iff item,
      ← shownItems?_eq_none_iff rest]
    cases first : shown? item <;> cases others : shownItems? rest <;>
      simp [shownItems?, first, others]

theorem shownFields?_eq_none_iff :
    (fields : List (String × Value)) →
      (shownFields? fields = none ↔ ∃ field ∈ fields, field.2.Unshowable)
  | [] => iff_of_false nofun nofun
  | (name, value) :: rest => by
    simp only [List.mem_cons, exists_eq_or_imp, ← shown?_eq_none_iff value,
      ← shownFields?_eq_none_iff rest]
    cases first : shown? value <;> cases others : shownFields? rest <;>
      simp [shownFields?, first, others]

end

end SignIn.Value

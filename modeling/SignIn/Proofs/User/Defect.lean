/-
**What is told of a row that is no user.**

A failure names the first part of a row that says nothing, and tells of its column what is wrong with it
(`Field.told`):

* `ofRow_of_firstUnreadable`: nothing else of the row is told;
* `Defect.reason_injective`, `message_undecodable_eq_iff`: the text of a fault tells the defect;
* `SameKind.told_eq`: of an identifier and of an address, only the kind of the value is told;
* `told_flag_eq_iff`: of a flag, it is the value as it is shown;
* `told_eq_unshown_iff`: a value that cannot be shown is told only where a flag should be;
* `SameKind.told_eq_iff`: all of it at once.
-/

import Mathlib
import SignIn.Proofs.User.Format

namespace SignIn

/-- How many bytes a value has that is kept as bytes. -/
def Value.byteCount? : Value → Option Nat
  | bytes _ content => some content.length
  | _ => none

namespace User

/-- What is told of the column of a part that cannot be read, by the value that is found there. -/
def Field.told : Field → Option Value → Defect
  | _, none => .missing
  | .id, some value =>
    match value.byteCount? with
    | some count => .wrongLength count
    | none => .unexpectedType value.typeName
  | .email, some _ => .noText
  | .admin, some value => (value.shown?.map .noFlag).getD .unshown
  | .verified, some value => (value.shown?.map .noFlag).getD .unshown

/-! ### The failure of a row -/

theorem decodeId_eq_error {value : Value} {defect : Defect} (failed : decodeId value = .error defect) :
    defect = Field.id.told (some value) := by
  cases value with
  | uuid _ => cases failed
  | bytes _ content =>
    simp only [decodeId, Uuid.ofBytes?] at failed
    split_ifs at failed
    exact (Except.error.inj failed).symm
  | _ => exact (Except.error.inj failed).symm

theorem decodeText_eq_error {value : Value} {defect : Defect}
    (failed : decodeText value = .error defect) : defect = Field.email.told (some value) := by
  cases value with
  | text content =>
    simp only [decodeText] at failed
    split_ifs at failed
    exact (Except.error.inj failed).symm
  | _ => exact (Except.error.inj failed).symm

theorem flagDefect_eq (value : Value) :
    flagDefect value = (value.shown?.map Defect.noFlag).getD .unshown := by
  unfold flagDefect
  cases value.shown? <;> rfl

theorem decodeFlag_eq_error {value : Value} {defect : Defect}
    (failed : decodeFlag value = .error defect) :
    defect = (value.shown?.map Defect.noFlag).getD .unshown := by
  have noFlag : ∀ flag, ¬ IsFlag value flag := by
    intro flag stands
    cases failed.symm.trans (decodeFlag_of_isFlag stands)
  rw [← flagDefect_eq]
  exact Except.error.inj (failed.symm.trans (decodeFlag_of_noFlag noFlag))

section Column

variable {α : Type} {decode : Value → Except Defect α} {stands : Value → α → Prop} {row : Row}
  {field : Field}

/-- A part that can be read decodes. -/
theorem decodes_of_readable (exact : ∀ {value part}, decode value = .ok part ↔ stands value part)
    (readable : ∃ part, Holds row field stands part) :
    ∃ part, decodeField decode row field = .ok part := by
  obtain ⟨part, holds⟩ := readable
  exact ⟨part, (decodeField_eq_ok_iff_holds exact).mpr holds⟩

/-- A part that cannot be read is told by what is found in its column. -/
theorem decodeField_of_unreadable
    (exact : ∀ {value part}, decode value = .ok part ↔ stands value part)
    (told : ∀ {value defect}, decode value = .error defect → defect = field.told (some value))
    (unreadable : ¬ ∃ part, Holds row field stands part) :
    decodeField decode row field =
      .error (undecodable field.column (field.told (row.lookup field.column))) := by
  cases decoded : decodeField decode row field with
  | ok part => exact absurd ⟨part, (decodeField_eq_ok_iff_holds exact).mp decoded⟩ unreadable
  | error fault =>
    unfold decodeField at decoded
    split at decoded
    · rename_i value found
      obtain ⟨defect, failed, rfl⟩ := mapError_eq_error_iff.mp decoded
      rw [found, told failed]
    · rename_i absent
      rw [absent]
      exact decoded.symm

end Column

/-- The parts that are decoded before a part. -/
def Field.earlier : Field → List Field
  | id => []
  | email => [id]
  | admin => [id, email]
  | verified => [id, email, admin]

theorem Field.eq_earlier {field : Field} {before behind : List Field}
    (order : Field.all = before ++ field :: behind) : before = field.earlier := by
  unfold Field.all at order
  match before with
  | [] | [_] | [_, _] | [_, _, _] =>
    cases order
    rfl
  | _ :: _ :: _ :: _ :: _ => simp at order

theorem Field.column_injective {first second : Field} (same : first.column = second.column) :
    first = second := by
  cases first <;> cases second <;> first | rfl | simp [column] at same

/-- **The failure of a row tells the first part that cannot be read, and what is found in its column.** -/
theorem ofRow_of_firstUnreadable {row : Row} {field : Field} (first : FirstUnreadable row field) :
    ofRow row = .error (undecodable field.column (field.told (row.lookup field.column))) := by
  obtain ⟨before, behind, order, readable, unreadable⟩ := first
  rw [Field.eq_earlier order] at readable
  unfold ofRow
  cases field with
  | id =>
    rw [decodeField_of_unreadable decodeId_eq_ok_iff decodeId_eq_error unreadable]
    rfl
  | email =>
    obtain ⟨id, idRead⟩ := decodes_of_readable decodeId_eq_ok_iff (readable .id (by decide))
    rw [idRead, decodeField_of_unreadable decodeText_eq_ok_iff decodeText_eq_error unreadable]
    rfl
  | admin =>
    obtain ⟨id, idRead⟩ := decodes_of_readable decodeId_eq_ok_iff (readable .id (by decide))
    obtain ⟨email, emailRead⟩ := decodes_of_readable decodeText_eq_ok_iff (readable .email (by decide))
    rw [idRead, emailRead,
      decodeField_of_unreadable decodeFlag_eq_ok_iff decodeFlag_eq_error unreadable]
    rfl
  | verified =>
    obtain ⟨id, idRead⟩ := decodes_of_readable decodeId_eq_ok_iff (readable .id (by decide))
    obtain ⟨email, emailRead⟩ := decodes_of_readable decodeText_eq_ok_iff (readable .email (by decide))
    obtain ⟨admin, adminRead⟩ := decodes_of_readable decodeFlag_eq_ok_iff (readable .admin (by decide))
    rw [idRead, emailRead, adminRead,
      decodeField_of_unreadable decodeFlag_eq_ok_iff decodeFlag_eq_error unreadable]
    rfl

/-! ### The text of a fault -/

/-- The tenth character of the text of a defect. -/
def Defect.letter : Defect → Char
  | missing => 'o'
  | wrongLength _ => '1'
  | unexpectedType _ => 'd'
  | noText => 'n'
  | noFlag _ => 'b'
  | unshown => 'h'

/-- What stands at a place of a text still stands there when something is added. -/
theorem getElem?_toList_append {start : String} {place : Nat} {c : Char}
    (there : start.toList[place]? = some c) (rest : String) :
    (start ++ rest).toList[place]? = some c := by
  obtain ⟨inside, -⟩ := List.getElem?_eq_some_iff.mp there
  rw [String.toList_append, List.getElem?_append_left inside, there]

theorem Defect.getElem?_reason (defect : Defect) :
    defect.reason.toList[9]? = some defect.letter := by
  cases defect with
  | missing | noText => decide
  | unshown => decide +kernel
  | wrongLength length =>
    exact getElem?_toList_append (by decide : "expected 16 bytes, got ".toList[9]? = some '1') _
  | unexpectedType typeName =>
    exact getElem?_toList_append (by decide : "unexpected type ".toList[9]? = some 'd') _
  | noFlag shown =>
    exact getElem?_toList_append (by decide : "expected boolean, got ".toList[9]? = some 'b') _

/-- **The text of a defect tells the defect.** -/
theorem Defect.reason_injective {first second : Defect} (same : first.reason = second.reason) :
    first = second := by
  have letters : first.letter = second.letter := by
    rw [← Option.some.injEq, ← getElem?_reason, ← getElem?_reason, same]
  cases first with
  | missing =>
    cases second with
    | missing => rfl
    | _ => simp [letter] at letters
  | unshown =>
    cases second with
    | unshown => rfl
    | _ => simp [letter] at letters
  | noText =>
    cases second with
    | noText => rfl
    | _ => simp [letter] at letters
  | wrongLength length =>
    cases second with
    | wrongLength other => rw [Nat.repr_injective ((String.append_right_inj _).mp same)]
    | _ => simp [letter] at letters
  | unexpectedType typeName =>
    cases second with
    | unexpectedType other => rw [(String.append_right_inj _).mp same]
    | _ => simp [letter] at letters
  | noFlag shown =>
    cases second with
    | noFlag other => rw [(String.append_right_inj _).mp same]
    | _ => simp [letter] at letters

/-- **Of two faults of one column, the texts are the same exactly if the defects are.** -/
theorem message_undecodable_eq_iff {column : String} {first second : Defect} :
    (GatewayFault.undecodable column first.reason).message =
      (GatewayFault.undecodable column second.reason).message ↔ first = second := by
  refine ⟨fun same => Defect.reason_injective ?_, fun same => by rw [same]⟩
  exact (String.append_right_inj _).mp same

/-! ### How much of a value is told -/

/-- What is found in a column of two rows is of one kind: nothing in both, or values of one type; in the
column of the identifier, values that are kept as bytes have one length. -/
inductive SameKind (field : Field) : Option Value → Option Value → Prop where
  | missing : SameKind field none none
  | found {first second : Value} (type : first.typeName = second.typeName)
      (count : field = .id → first.byteCount? = second.byteCount?) :
      SameKind field (some first) (some second)

variable {field : Field}

/-- **Of an identifier and of an address, only the kind of the value is told.** -/
theorem SameKind.told_eq {found other : Option Value} (kind : SameKind field found other)
    (plain : field = .id ∨ field = .email) : field.told found = field.told other := by
  cases kind with
  | missing => rfl
  | found type count =>
    rcases plain with rfl | rfl
    · simp only [Field.told, type, count rfl]
    · rfl

theorem noFlag_getD_inj {first second : Option String} :
    (first.map Defect.noFlag).getD .unshown = (second.map Defect.noFlag).getD .unshown ↔
      first = second := by
  cases first <;> cases second <;> simp

/-- **Of a flag, the value is told as it is shown**, or that it is not. -/
theorem told_flag_eq_iff (flag : field = .admin ∨ field = .verified) {first second : Value} :
    field.told (some first) = field.told (some second) ↔ first.shown? = second.shown? := by
  rcases flag with rfl | rfl
  · exact noFlag_getD_inj
  · exact noFlag_getD_inj

/-- **That a value cannot be shown is told exactly where a flag should be.** -/
theorem told_eq_unshown_iff {found : Option Value} :
    field.told found = .unshown ↔
      (field = .admin ∨ field = .verified) ∧ ∃ value, found = some value ∧ value.Unshowable := by
  cases found with
  | none => exact iff_of_false (by cases field <;> nofun) (by simp)
  | some value =>
    simp only [Option.some.injEq, exists_eq_left', ← Value.shown?_eq_none_iff]
    cases field with
    | id =>
      refine iff_of_false ?_ (by simp)
      cases counted : value.byteCount? <;> simp [Field.told, counted]
    | email => exact iff_of_false nofun (by simp)
    | admin | verified => cases shown : value.shown? <;> simp [Field.told, shown]

/-- **What is told of two values of one kind is the same, unless they are shown differently where a flag
should be.** -/
theorem SameKind.told_eq_iff {found other : Option Value} (kind : SameKind field found other) :
    field.told found = field.told other ↔
      (field = .admin ∨ field = .verified → found.bind Value.shown? = other.bind Value.shown?) := by
  by_cases flag : field = .admin ∨ field = .verified
  · cases kind with
    | missing => exact iff_of_true rfl fun _ => rfl
    | found type count =>
      rw [told_flag_eq_iff flag, imp_iff_right flag, Option.bind_some, Option.bind_some]
  · have plain : field = .id ∨ field = .email := by
      cases field <;> simp at flag ⊢
    exact iff_of_true (kind.told_eq plain) fun other => absurd other flag

end User

end SignIn

/-
**Rows that decode.**

A row is a user exactly when each of the four columns decodes on its own to the user's part
(`ofRow_eq_ok_iff`); otherwise the failure comes from a column (`undecodable_of_ofRow`), and names it if
the values of the row can be shown (`gateway_of_ofRow`). A flag decodes exactly from the values that
stand for one (`decodeFlag_of_isFlag`, `decodeFlag_of_noFlag`).
-/

import SignIn.Proofs.Value
import SignIn.User.Row

namespace SignIn

/-! ### Two steps in a row -/

section Steps

variable {ε α β : Type} {first : Except ε α} {second : α → Except ε β}

theorem bind_eq_ok_iff {result : β} :
    (first >>= second) = .ok result ↔ ∃ value, first = .ok value ∧ second value = .ok result := by
  constructor
  · intro both
    cases first with
    | error _ => cases both
    | ok value => exact ⟨value, rfl, both⟩
  · rintro ⟨value, rfl, rest⟩
    exact rest

theorem bind_eq_error_iff {fault : ε} :
    (first >>= second) = .error fault ↔
      first = .error fault ∨ ∃ value, first = .ok value ∧ second value = .error fault := by
  cases first with
  | error found =>
    refine ⟨fun failed => Or.inl (congrArg Except.error (Except.error.inj failed)), ?_⟩
    rintro (failed | ⟨value, ok, -⟩)
    · exact congrArg Except.error (Except.error.inj failed)
    · cases ok
  | ok value =>
    refine ⟨fun failed => Or.inr ⟨value, rfl, failed⟩, ?_⟩
    rintro (failed | ⟨other, ok, failed⟩)
    · cases failed
    · cases ok
      exact failed

theorem mapError_eq_ok_iff {δ : Type} {change : ε → δ} {value : α} :
    first.mapError change = .ok value ↔ first = .ok value := by
  cases first with
  | error _ =>
    constructor
    · intro mapped
      cases mapped
    · intro ok
      cases ok
  | ok found =>
    exact ⟨fun mapped => congrArg Except.ok (Except.ok.inj mapped),
      fun ok => congrArg Except.ok (Except.ok.inj ok)⟩

theorem mapError_eq_error_iff {δ : Type} {change : ε → δ} {fault : δ} :
    first.mapError change = .error fault ↔ ∃ cause, first = .error cause ∧ fault = change cause := by
  cases first with
  | error cause =>
    constructor
    · intro mapped
      exact ⟨cause, rfl, (Except.error.inj mapped).symm⟩
    · rintro ⟨_, same, rfl⟩
      exact congrArg (Except.error ∘ change) (Except.error.inj same)
  | ok _ =>
    constructor
    · intro mapped
      cases mapped
    · rintro ⟨_, failed, -⟩
      cases failed

end Steps

namespace User

variable {α : Type} {decode : Value → Except Defect α} {row : Row} {field : Field}

theorem decodeField_eq_ok_iff {part : α} :
    decodeField decode row field = .ok part ↔
      ∃ value, row.lookup field.column = some value ∧ decode value = .ok part := by
  unfold decodeField decodeColumn
  cases row.lookup field.column with
  | none => simp
  | some value => simp [mapError_eq_ok_iff]

/-- A part that does not decode fails with what is wrong in its column. It is not shown exactly if the
value there is not. -/
theorem undecodable_of_decodeField {failure : Failure}
    (failed : decodeField decode row field = .error failure) :
    ∃ defect, failure = undecodable field.column defect ∧ (defect = .unshown ↔
      ∃ value, row.lookup field.column = some value ∧ decode value = .error .unshown) := by
  unfold decodeField at failed
  split at failed
  · rename_i value found
    obtain ⟨defect, wrong, named⟩ := mapError_eq_error_iff.mp failed
    refine ⟨defect, named, fun unshown => ⟨value, found, unshown ▸ wrong⟩, ?_⟩
    rintro ⟨other, same, unshown⟩
    rw [found, Option.some.injEq] at same
    rw [same] at wrong
    exact Except.error.inj (wrong.symm.trans unshown)
  · rename_i absent
    refine ⟨.missing, (Except.error.inj failed).symm, nofun, ?_⟩
    rintro ⟨other, same, -⟩
    cases absent.symm.trans same

theorem undecodable_of_ne_unshown {column : String} {defect : Defect} (shown : defect ≠ .unshown) :
    undecodable column defect = .gateway (.undecodable column defect.reason) := by
  cases defect with
  | unshown => exact absurd rfl shown
  | _ => rfl

/-! ### What cannot be shown -/

/-- The failure of a value that cannot be shown where it has to be. -/
def unshownFailure : Failure :=
  .general .wrongValue ("Exceeds the limit (4300 digits) for integer string conversion; " ++
    "use sys.set_int_max_str_digits() to increase the limit")

theorem undecodable_unshown (column : String) : undecodable column .unshown = unshownFailure :=
  congrArg (Failure.general .wrongValue) (by decide +kernel)

theorem decodeId_ne_unshown (value : Value) : decodeId value ≠ .error .unshown := by
  intro failed
  unfold decodeId at failed
  split at failed
  · cases failed
  · split at failed <;> cases failed
  · cases failed

theorem decodeText_ne_unshown (value : Value) : decodeText value ≠ .error .unshown := by
  intro failed
  unfold decodeText at failed
  split at failed
  · split at failed <;> cases failed
  · cases failed

theorem flagDefect_eq_unshown_iff {value : Value} :
    flagDefect value = .unshown ↔ value.shown? = none := by
  unfold flagDefect
  cases value.shown? <;> simp

theorem decodeFlag_eq_unshown {value : Value} (failed : decodeFlag value = .error .unshown) :
    value.shown? = none := by
  unfold decodeFlag at failed
  split at failed
  · cases failed
  · cases failed
  · cases failed
  · exact flagDefect_eq_unshown_iff.mp (Except.error.inj failed)

/-- **A row is a user exactly when each column decodes to the user's part.** -/
theorem ofRow_eq_ok_iff (row : Row) (user : User) :
    ofRow row = .ok user ↔
      decodeField decodeId row .id = .ok user.id ∧
        decodeField decodeText row .email = .ok user.email ∧
        decodeField decodeFlag row .admin = .ok user.admin ∧
        decodeField decodeFlag row .verified = .ok user.verified := by
  unfold ofRow
  constructor
  · intro decoded
    obtain ⟨id, idOf, decoded⟩ := bind_eq_ok_iff.mp decoded
    obtain ⟨email, emailOf, decoded⟩ := bind_eq_ok_iff.mp decoded
    obtain ⟨admin, adminOf, decoded⟩ := bind_eq_ok_iff.mp decoded
    obtain ⟨verified, verifiedOf, decoded⟩ := bind_eq_ok_iff.mp decoded
    cases decoded
    exact ⟨idOf, emailOf, adminOf, verifiedOf⟩
  · rintro ⟨id, email, admin, verified⟩
    rw [id, email, admin, verified]
    rfl

/-- **A row that is no user has a column that does not decode.** -/
theorem undecodable_of_ofRow {failure : Failure} (failed : ofRow row = .error failure) :
    ∃ (field : Field) (defect : Defect), failure = undecodable field.column defect ∧
      (defect = .unshown →
        ∃ value, row.lookup field.column = some value ∧ value.shown? = none) := by
  -- Whatever is wrong with a column, it is not shown only if the value there is not.
  have told : ∀ {α : Type} {decode : Value → Except Defect α} {field : Field},
      (∀ value, decode value = .error .unshown → value.shown? = none) →
      decodeField decode row field = .error failure →
      ∃ defect, failure = undecodable field.column defect ∧ (defect = .unshown →
        ∃ value, row.lookup field.column = some value ∧ value.shown? = none) := by
    intro α decode field hides here
    obtain ⟨defect, named, unshown⟩ := undecodable_of_decodeField here
    refine ⟨defect, named, fun same => ?_⟩
    obtain ⟨value, found, wrong⟩ := unshown.mp same
    exact ⟨value, found, hides value wrong⟩
  unfold ofRow at failed
  rcases bind_eq_error_iff.mp failed with here | ⟨id, -, failed⟩
  · exact ⟨.id, told (fun value wrong => absurd wrong (decodeId_ne_unshown value)) here⟩
  rcases bind_eq_error_iff.mp failed with here | ⟨email, -, failed⟩
  · exact ⟨.email, told (fun value wrong => absurd wrong (decodeText_ne_unshown value)) here⟩
  rcases bind_eq_error_iff.mp failed with here | ⟨admin, -, failed⟩
  · exact ⟨.admin, told (fun value => decodeFlag_eq_unshown) here⟩
  rcases bind_eq_error_iff.mp failed with here | ⟨verified, -, failed⟩
  · exact ⟨.verified, told (fun value => decodeFlag_eq_unshown) here⟩
  · cases failed

/-- **Where all values can be shown, the failure is one of the directory and names the column.** -/
theorem gateway_of_ofRow {failure : Failure}
    (shown : ∀ {column value}, row.lookup column = some value → value.shown? ≠ none)
    (failed : ofRow row = .error failure) :
    ∃ (field : Field) (defect : Defect),
      failure = .gateway (.undecodable field.column defect.reason) := by
  obtain ⟨field, defect, rfl, unshown⟩ := undecodable_of_ofRow failed
  refine ⟨field, defect, undecodable_of_ne_unshown fun same => ?_⟩
  obtain ⟨value, found, hidden⟩ := unshown same
  exact shown found hidden

theorem decodeText_text_eq_ok_iff {content text : String} :
    decodeText (.text content) = .ok text ↔ content = text ∧ text ≠ "" := by
  show (if content = "" then Except.error Defect.noText else .ok content) = _ ↔ _
  by_cases empty : content = ""
  · rw [if_pos empty]
    constructor
    · intro wrong
      cases wrong
    · rintro ⟨rfl, named⟩
      exact absurd empty named
  · rw [if_neg empty, Except.ok.injEq]
    exact ⟨fun same => ⟨same, same ▸ empty⟩, fun both => both.1⟩

theorem decodeId_bytes (form : ByteForm) (id : Uuid) :
    decodeId (.bytes form id.bytes) = .ok id := by
  simp only [decodeId, Uuid.ofBytes?, id.length_bytes, ↓reduceDIte]

/-- The values that stand for a flag: a truth value stands for itself, the integers 0 and 1 for
*false* and *true*. -/
inductive IsFlag : Value → Bool → Prop where
  | truth (flag : Bool) : IsFlag (.bool flag) flag
  | zero : IsFlag (.int 0) false
  | one : IsFlag (.int 1) true

theorem decodeFlag_of_isFlag {value : Value} {flag : Bool} (stands : IsFlag value flag) :
    decodeFlag value = .ok flag := by
  cases stands <;> rfl

theorem decodeFlag_of_noFlag {value : Value} (noFlag : ∀ flag, ¬ IsFlag value flag) :
    decodeFlag value = .error (flagDefect value) := by
  unfold decodeFlag
  split
  · exact absurd (IsFlag.truth _) (noFlag _)
  · exact absurd IsFlag.zero (noFlag _)
  · exact absurd IsFlag.one (noFlag _)
  · rfl

theorem not_isFlag_of_unshowable {value : Value} (unshowable : value.Unshowable) (flag : Bool) :
    ¬ IsFlag value flag := by
  have hidden := value.shown?_eq_none_iff.mpr unshowable
  rintro (_ | _ | _) <;> cases hidden

/-- **A value that cannot be shown stands for no flag**, and that is all that is known of it. -/
theorem decodeFlag_eq_unshown_iff {value : Value} :
    decodeFlag value = .error .unshown ↔ value.Unshowable := by
  constructor
  · intro failed
    exact value.shown?_eq_none_iff.mp (decodeFlag_eq_unshown failed)
  · intro unshowable
    rw [decodeFlag_of_noFlag (not_isFlag_of_unshowable unshowable),
      flagDefect_eq_unshown_iff.mpr (value.shown?_eq_none_iff.mpr unshowable)]

end User

end SignIn

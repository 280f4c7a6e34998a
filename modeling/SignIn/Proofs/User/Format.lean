/-
**The format of a user's row.**

What values stand for the parts of a user is said without the decoder (`IsId`, `IsText`, `IsFlag`), and
so is which column of a row is the first that says nothing (`FirstUnreadable`):

* `ofRow_eq_ok_iff_describes`: a row is a user exactly if its columns describe that user;
* `firstUnreadable_of_ofRow`: the failure of any other row names the first column that says nothing,
  unless a value stands there that would have to be shown and cannot be (`Unshown`);
* `ofRow_congr`: neither the order of the columns nor the other columns count;
* `ofRow_bytesRow`, `ofRow_typedRow`: both ways to store a user give the user back;
* `Describes.carries`: rows of one user carry the same bytes, the same text and the same numbers;
* `accepts_declared_format`: all of it.
-/

import Mathlib.Data.List.Basic
import SignIn.Proofs.User.Row
import SignIn.Proofs.Value

namespace SignIn.User

/-! ### Values that stand for a part -/

/-- The values that stand for an identifier: an identifier itself, and its sixteen bytes in any form. -/
inductive IsId : Value → Uuid → Prop where
  | plain (id : Uuid) : IsId (.uuid id) id
  | bytes (form : ByteForm) (content : List UInt8) (sixteen : content.length = 16) :
      IsId (.bytes form content) ⟨content, sixteen⟩

/-- The values that stand for a text: any text that is not empty. -/
inductive IsText : Value → String → Prop where
  | text {content : String} (nonempty : content ≠ "") : IsText (.text content) content

theorem decodeId_eq_ok_iff {value : Value} {id : Uuid} : decodeId value = .ok id ↔ IsId value id := by
  constructor
  · intro decoded
    unfold decodeId at decoded
    split at decoded
    · cases decoded
      exact .plain id
    · unfold Uuid.ofBytes? at decoded
      split_ifs at decoded with sixteen
      cases decoded
      exact .bytes _ _ sixteen
    · cases decoded
  · intro stands
    cases stands with
    | plain id => rfl
    | bytes form content sixteen => exact decodeId_bytes form ⟨content, sixteen⟩

theorem decodeText_eq_ok_iff {value : Value} {text : String} :
    decodeText value = .ok text ↔ IsText value text := by
  constructor
  · intro decoded
    cases value with
    | text content =>
      obtain ⟨rfl, nonempty⟩ := decodeText_text_eq_ok_iff.mp decoded
      exact .text nonempty
    | _ => cases decoded
  · intro stands
    cases stands with
    | text nonempty => exact decodeText_text_eq_ok_iff.mpr ⟨rfl, nonempty⟩

theorem decodeFlag_eq_ok_iff {value : Value} {flag : Bool} :
    decodeFlag value = .ok flag ↔ IsFlag value flag := by
  refine ⟨fun decoded => ?_, decodeFlag_of_isFlag⟩
  by_cases stands : ∃ other, IsFlag value other
  · obtain ⟨other, stands⟩ := stands
    obtain rfl : other = flag := Except.ok.inj ((decodeFlag_of_isFlag stands).symm.trans decoded)
    exact stands
  · cases (decodeFlag_of_noFlag (not_exists.mp stands)).symm.trans decoded

/-! ### Columns that describe a user -/

/-- A column of a row has a value that stands for a part. -/
def Holds {α : Type} (row : Row) (field : Field) (stands : Value → α → Prop) (part : α) : Prop :=
  ∃ value, row.lookup field.column = some value ∧ stands value part

/-- A row whose columns describe a user. -/
structure Describes (row : Row) (user : User) : Prop where
  id : Holds row .id IsId user.id
  email : Holds row .email IsText user.email
  admin : Holds row .admin IsFlag user.admin
  verified : Holds row .verified IsFlag user.verified

/-- A row has a column for a part, and its value stands for something. -/
def Readable (row : Row) : Field → Prop
  | .id => ∃ id, Holds row .id IsId id
  | .email => ∃ email, Holds row .email IsText email
  | .admin => ∃ admin, Holds row .admin IsFlag admin
  | .verified => ∃ verified, Holds row .verified IsFlag verified

/-- The first part, in order, whose column is missing or has a value that stands for nothing. -/
def FirstUnreadable (row : Row) (field : Field) : Prop :=
  ∃ before behind, Field.all = before ++ field :: behind ∧
    (∀ earlier ∈ before, Readable row earlier) ∧ ¬ Readable row field

/-- Where a flag should be, a row has a value that cannot be shown. -/
def Unshown (row : Row) (field : Field) : Prop :=
  (field = .admin ∨ field = .verified) ∧
    ∃ value, row.lookup field.column = some value ∧ value.Unshowable

/-- What a row fails with whose first column that says nothing is that of a part: a failure of the
directory that names the column, or that of a value which cannot be shown. -/
inductive FailsAtPart (row : Row) (field : Field) : Failure → Prop where
  | undecodable (shown : ¬ Unshown row field) (reason : String) :
      FailsAtPart row field (.gateway (.undecodable field.column reason))
  | unshown (unshown : Unshown row field) : FailsAtPart row field unshownFailure

/-- A failure of the directory names the column of the part. -/
theorem FailsAtPart.column_eq {row : Row} {field : Field} {column reason : String}
    (fails : FailsAtPart row field (.gateway (.undecodable column reason))) : field.column = column := by
  generalize same : Failure.gateway _ = failure at fails
  cases fails with
  | undecodable shown told => exact (GatewayFault.undecodable.inj (Failure.gateway.inj same)).1.symm
  | unshown unshown => cases same

theorem decodeId_eq_unshown_iff (value : Value) :
    decodeId value = .error .unshown ↔ (Field.id = .admin ∨ Field.id = .verified) ∧ value.Unshowable :=
  iff_of_false (decodeId_ne_unshown value) (by simp)

theorem decodeText_eq_unshown_iff (value : Value) :
    decodeText value = .error .unshown ↔
      (Field.email = .admin ∨ Field.email = .verified) ∧ value.Unshowable :=
  iff_of_false (decodeText_ne_unshown value) (by simp)

theorem decodeFlag_eq_unshown_iff_of_flag {field : Field} (flag : field = .admin ∨ field = .verified)
    (value : Value) : decodeFlag value = .error .unshown ↔
      (field = .admin ∨ field = .verified) ∧ value.Unshowable :=
  decodeFlag_eq_unshown_iff.trans (and_iff_right flag).symm

section Column

variable {α : Type} {decode : Value → Except Defect α} {stands : Value → α → Prop} {row : Row}
  {field : Field}

/-- The failure of a part that does not decode. -/
theorem failsAtPart_of_decodeField
    (hides : ∀ value, decode value = .error .unshown ↔
      (field = .admin ∨ field = .verified) ∧ value.Unshowable)
    {failure : Failure} (failed : decodeField decode row field = .error failure) :
    FailsAtPart row field failure := by
  obtain ⟨defect, rfl, unshown⟩ := undecodable_of_decodeField failed
  have unshown_iff : defect = .unshown ↔ Unshown row field := by
    rw [unshown]
    unfold Unshown
    simp only [hides]
    exact ⟨fun ⟨value, found, flag, wrong⟩ => ⟨flag, value, found, wrong⟩,
      fun ⟨flag, value, found, wrong⟩ => ⟨value, found, flag, wrong⟩⟩
  by_cases same : defect = .unshown
  · subst same
    rw [undecodable_unshown]
    exact .unshown (unshown_iff.mp rfl)
  · rw [undecodable_of_ne_unshown same]
    exact .undecodable (fun hidden => same (unshown_iff.mpr hidden)) _

theorem decodeField_eq_ok_iff_holds (exact : ∀ {value part}, decode value = .ok part ↔ stands value part)
    {part : α} : decodeField decode row field = .ok part ↔ Holds row field stands part := by
  rw [decodeField_eq_ok_iff]
  exact exists_congr fun value => and_congr_right fun _ => exact

/-- Once the parts before a part say something, it is the first that says nothing, or it says something
and what fails comes behind it. -/
theorem firstUnreadable_or_of_bind {β : Type}
    (exact : ∀ {value part}, decode value = .ok part ↔ stands value part)
    (hides : ∀ value, decode value = .error .unshown ↔
      (field = .admin ∨ field = .verified) ∧ value.Unshowable)
    (readable : Readable row field ↔ ∃ part, Holds row field stands part)
    {before behind : List Field} (order : Field.all = before ++ field :: behind)
    (earlier : ∀ one ∈ before, Readable row one) {next : α → Except Failure β}
    {failure : Failure} (failed : decodeField decode row field >>= next = .error failure) :
    (∃ field, FirstUnreadable row field ∧ FailsAtPart row field failure) ∨
      ∃ part, (∀ one ∈ before ++ [field], Readable row one) ∧ next part = .error failure := by
  rcases bind_eq_error_iff.mp failed with here | ⟨part, decoded, failed⟩
  · refine Or.inl ⟨field, ⟨before, behind, order, earlier, fun reads => ?_⟩,
      failsAtPart_of_decodeField hides here⟩
    obtain ⟨part, holds⟩ := readable.mp reads
    cases here.symm.trans ((decodeField_eq_ok_iff_holds exact).mpr holds)
  · refine Or.inr ⟨part, List.forall_mem_append.mpr ⟨earlier, ?_⟩, failed⟩
    rw [List.forall_mem_singleton]
    exact readable.mpr ⟨part, (decodeField_eq_ok_iff_holds exact).mp decoded⟩

end Column

/-- **A row is a user exactly if its columns describe that user.** -/
theorem ofRow_eq_ok_iff_describes {row : Row} {user : User} :
    ofRow row = .ok user ↔ Describes row user := by
  rw [ofRow_eq_ok_iff, decodeField_eq_ok_iff_holds decodeId_eq_ok_iff,
    decodeField_eq_ok_iff_holds decodeText_eq_ok_iff, decodeField_eq_ok_iff_holds decodeFlag_eq_ok_iff,
    decodeField_eq_ok_iff_holds decodeFlag_eq_ok_iff]
  exact ⟨fun ⟨id, email, admin, verified⟩ => ⟨id, email, admin, verified⟩,
    fun ⟨id, email, admin, verified⟩ => ⟨id, email, admin, verified⟩⟩

/-- **The failure of a row that is no user is that of the first column that says nothing.** -/
theorem firstUnreadable_of_ofRow {row : Row} {failure : Failure}
    (failed : ofRow row = .error failure) :
    ∃ field, FirstUnreadable row field ∧ FailsAtPart row field failure := by
  unfold ofRow at failed
  rcases firstUnreadable_or_of_bind decodeId_eq_ok_iff decodeId_eq_unshown_iff Iff.rfl rfl
    (List.forall_mem_nil _) failed with found | ⟨id, readable, failed⟩
  · exact found
  rcases firstUnreadable_or_of_bind decodeText_eq_ok_iff decodeText_eq_unshown_iff Iff.rfl rfl
    readable failed with found | ⟨email, readable, failed⟩
  · exact found
  rcases firstUnreadable_or_of_bind decodeFlag_eq_ok_iff (decodeFlag_eq_unshown_iff_of_flag (.inl rfl))
    Iff.rfl rfl readable failed with found | ⟨admin, readable, failed⟩
  · exact found
  rcases firstUnreadable_or_of_bind decodeFlag_eq_ok_iff (decodeFlag_eq_unshown_iff_of_flag (.inr rfl))
    Iff.rfl rfl readable failed with found | ⟨verified, -, done⟩
  · exact found
  · cases done

/-! ### What does not count -/

/-- In a row whose columns have different names, a column is found wherever it stands. -/
theorem lookup_eq_some_iff_mem {row : Row} (distinct : (row.map Prod.fst).Nodup) {column : String}
    {value : Value} : row.lookup column = some value ↔ (column, value) ∈ row := by
  induction row with
  | nil => simp
  | cons first rest ih =>
    obtain ⟨name, content⟩ := first
    rw [List.map_cons, List.nodup_cons] at distinct
    rw [List.lookup_cons, List.mem_cons, Prod.mk.injEq]
    by_cases same : column = name
    · subst same
      have absent : (column, value) ∉ rest := fun member =>
        distinct.1 (List.mem_map.mpr ⟨_, member, rfl⟩)
      simp [absent, eq_comm]
    · rw [beq_false_of_ne same]
      simp [same, ih distinct.2]

/-- **Only the values of the four columns count**, not their order and no other column. -/
theorem ofRow_congr {row other : Row} (distinct : (row.map Prod.fst).Nodup)
    (otherDistinct : (other.map Prod.fst).Nodup)
    (same : ∀ (field : Field) (value : Value),
      (field.column, value) ∈ other ↔ (field.column, value) ∈ row) :
    ofRow other = ofRow row := by
  have found : ∀ field : Field, other.lookup field.column = row.lookup field.column := by
    intro field
    ext value
    rw [lookup_eq_some_iff_mem otherDistinct, same, lookup_eq_some_iff_mem distinct]
  have decoded : ∀ {α : Type} (decode : Value → Except Defect α) (field : Field),
      decodeField decode other field = decodeField decode row field := by
    intro α decode field
    unfold decodeField
    rw [found]
  unfold ofRow
  simp only [decoded]

/-! ### Rows that store a user -/

/-- The number that stands for a flag. -/
def flagNumber (flag : Bool) : Int :=
  if flag then 1 else 0

/-- The row of a user where identifiers are kept as bytes and flags as numbers. -/
def bytesRow (user : User) : Row :=
  [("id", .bytes .string user.id.bytes), ("email", .text user.email),
    ("admin", .int (flagNumber user.admin)), ("verified", .int (flagNumber user.verified))]

/-- The row of a user where there are types for identifiers and flags. -/
def typedRow (user : User) : Row :=
  [("id", .uuid user.id), ("email", .text user.email), ("admin", .bool user.admin),
    ("verified", .bool user.verified)]

theorem isFlag_flagNumber (flag : Bool) : IsFlag (.int (flagNumber flag)) flag := by
  cases flag with
  | false => exact .zero
  | true => exact .one

theorem ofRow_bytesRow {user : User} (named : user.email ≠ "") : ofRow (bytesRow user) = .ok user :=
  ofRow_eq_ok_iff_describes.mpr
    ⟨⟨_, rfl, .bytes .string user.id.bytes user.id.length_bytes⟩, ⟨_, rfl, .text named⟩,
      ⟨_, rfl, isFlag_flagNumber user.admin⟩, ⟨_, rfl, isFlag_flagNumber user.verified⟩⟩

theorem ofRow_typedRow {user : User} (named : user.email ≠ "") : ofRow (typedRow user) = .ok user :=
  ofRow_eq_ok_iff_describes.mpr
    ⟨⟨_, rfl, .plain user.id⟩, ⟨_, rfl, .text named⟩, ⟨_, rfl, .truth user.admin⟩,
      ⟨_, rfl, .truth user.verified⟩⟩

/-! ### What a row carries -/

/-- The bytes of a value that is an identifier or is kept as bytes. -/
def bytesOf? : Value → Option (List UInt8)
  | .uuid id => some id.bytes
  | .bytes _ content => some content
  | _ => none

/-- The number of a truth value or an integer. -/
def numberOf? : Value → Option Int
  | .bool flag => some (flagNumber flag)
  | .int number => some number
  | _ => none

/-- What the columns of a row carry, whatever form it has there. -/
structure Carries (row : Row) (id : List UInt8) (email : String) (admin verified : Int) : Prop where
  id : (row.lookup "id").bind bytesOf? = some id
  email : row.lookup "email" = some (.text email)
  admin : (row.lookup "admin").bind numberOf? = some admin
  verified : (row.lookup "verified").bind numberOf? = some verified

theorem IsId.bytesOf? {value : Value} {id : Uuid} (stands : IsId value id) :
    User.bytesOf? value = some id.bytes := by
  cases stands <;> rfl

theorem IsFlag.numberOf? {value : Value} {flag : Bool} (stands : IsFlag value flag) :
    User.numberOf? value = some (flagNumber flag) := by
  cases stands <;> rfl

/-- **A row that describes a user carries the bytes, the text and the numbers of that user.** -/
theorem Describes.carries {row : Row} {user : User} (describes : Describes row user) :
    Carries row user.id.bytes user.email (flagNumber user.admin) (flagNumber user.verified) := by
  obtain ⟨⟨id, idAt, isId⟩, ⟨email, emailAt, isText⟩, ⟨admin, adminAt, isAdmin⟩,
    ⟨verified, verifiedAt, isVerified⟩⟩ := describes
  refine ⟨?_, ?_, ?_, ?_⟩
  · exact (congrArg (·.bind User.bytesOf?) idAt).trans isId.bytesOf?
  · cases isText
    exact emailAt
  · exact (congrArg (·.bind User.numberOf?) adminAt).trans isAdmin.numberOf?
  · exact (congrArg (·.bind User.numberOf?) verifiedAt).trans isVerified.numberOf?

/-! ### The format as a whole -/

/-- **A row is accepted exactly in the declared format, and the stored forms of a user are read back.**
A row is a user exactly if its columns describe that user; otherwise it fails at the first of the four
columns that is missing or says nothing. The failure names that column, unless the column should hold a
flag and holds a value that cannot be shown, which then fails with that only. Two rows with the same
values in these columns have one outcome, whatever their order and whatever other columns there are. A
user with an address is read back from both stored forms, and two rows of one user carry the same sixteen
bytes, the same address and the same numbers. -/
theorem accepts_declared_format (row other : Row) :
    (∀ user, ofRow row = .ok user ↔ Describes row user) ∧
      (∀ failure, ofRow row = .error failure →
        ∃ field, FirstUnreadable row field ∧ FailsAtPart row field failure ∧
          (failure.name = "UserRowDecodeError" ↔ ¬ Unshown row field)) ∧
      ((row.map Prod.fst).Nodup → (other.map Prod.fst).Nodup →
        (∀ (field : Field) (value : Value),
          (field.column, value) ∈ other ↔ (field.column, value) ∈ row) →
        ofRow other = ofRow row) ∧
      (∀ user : User, user.email ≠ "" →
        ofRow (bytesRow user) = .ok user ∧ ofRow (typedRow user) = .ok user) ∧
      ∀ user, ofRow row = .ok user → ofRow other = .ok user →
        ∃ id email admin verified, id.length = 16 ∧ Carries row id email admin verified ∧
          Carries other id email admin verified := by
  refine ⟨fun user => ofRow_eq_ok_iff_describes, fun failure failed => ?_, ofRow_congr,
    fun user named => ⟨ofRow_bytesRow named, ofRow_typedRow named⟩, fun user decoded also => ?_⟩
  · obtain ⟨field, first, fails⟩ := firstUnreadable_of_ofRow failed
    refine ⟨field, first, fails, ?_⟩
    cases fails with
    | undecodable shown reason => exact iff_of_true rfl shown
    | unshown unshown => exact iff_of_false (by decide) fun shown => shown unshown
  · exact ⟨_, _, _, _, user.id.length_bytes, (ofRow_eq_ok_iff_describes.mp decoded).carries,
      (ofRow_eq_ok_iff_describes.mp also).carries⟩

/-- A row in another order, with a column of its own and the identifier in a buffer, is the user that
its typed row is. Of a row in which three of the four columns say nothing, the address is named. -/
theorem shuffled_row_decodes :
    let user : User := ⟨Uuid.ofNat 7, "a@b.c", true, false⟩
    let shuffled : Row := [("verified", .int 0), ("hash", .text "x"), ("admin", .bool true),
      ("email", .text "a@b.c"), ("id", .bytes .buffer (Uuid.ofNat 7).bytes)]
    let broken : Row := [("verified", .float "1.0"), ("admin", .int 2), ("id", .uuid (Uuid.ofNat 7))]
    ofRow shuffled = .ok user ∧ ofRow (typedRow user) = .ok user ∧ ofRow shuffled.reverse = .ok user ∧
      (∃ id email admin verified, id.length = 16 ∧ Carries shuffled id email admin verified ∧
        Carries (typedRow user) id email admin verified) ∧
      ofRow broken = .error (.gateway (.undecodable "email" "missing column")) ∧
      ∃ field, FirstUnreadable broken field ∧ field.column = "email" := by
  intro user shuffled broken
  obtain ⟨accepts, -, -, stored, carries⟩ := accepts_declared_format shuffled (typedRow user)
  obtain ⟨-, -, congruent, -⟩ := accepts_declared_format shuffled shuffled.reverse
  have describes : Describes shuffled user := ⟨⟨_, rfl, .bytes .buffer _ (Uuid.ofNat 7).length_bytes⟩,
    ⟨_, rfl, .text (by decide)⟩, ⟨_, rfl, .truth true⟩, ⟨_, rfl, .zero⟩⟩
  have decoded : ofRow shuffled = .ok user := (accepts user).mpr describes
  have typed : ofRow (typedRow user) = .ok user := (stored user (by decide)).2
  have reversed : ofRow shuffled.reverse = ofRow shuffled :=
    congruent (by decide) (by decide) fun _ _ => List.mem_reverse
  obtain ⟨-, faulty, -⟩ := accepts_declared_format broken broken
  have failed : ofRow broken = .error (.gateway (.undecodable "email" "missing column")) := rfl
  obtain ⟨field, first, fails, -⟩ := faulty _ failed
  exact ⟨decoded, typed, reversed.trans decoded, carries user decoded typed, failed, field, first,
    fails.column_eq⟩

/-- A row whose first two columns decode fails with the value in the third, if that cannot be shown. -/
theorem ofRow_of_unshowable {id : Uuid} {email : String} {admin verified : Value}
    (named : email ≠ "") (unshowable : admin.Unshowable) :
    let row : Row :=
      [("id", .uuid id), ("email", .text email), ("admin", admin), ("verified", verified)]
    FirstUnreadable row .admin ∧ ofRow row = .error (undecodable "admin" .unshown) := by
  intro row
  constructor
  · refine ⟨[.id, .email], [.verified], rfl, ?_, ?_⟩
    · rw [List.forall_mem_cons, List.forall_mem_singleton]
      exact ⟨⟨_, _, rfl, .plain _⟩, ⟨_, _, rfl, .text named⟩⟩
    · rintro ⟨flag, _, found, stands⟩
      cases found
      exact not_isFlag_of_unshowable unshowable flag stands
  · have idRead : decodeField decodeId row .id = .ok id := rfl
    have emailRead : decodeField decodeText row .email = .ok email :=
      decodeField_eq_ok_iff.mpr ⟨_, rfl, decodeText_eq_ok_iff.mpr (.text named)⟩
    have adminRead : decodeField decodeFlag row .admin = .error (undecodable "admin" .unshown) :=
      congrArg (Except.mapError (undecodable "admin")) (decodeFlag_eq_unshown_iff.mpr unshowable)
    unfold ofRow
    rw [idRead, emailRead, adminRead]
    rfl

/-- A row with an integer of 5001 digits where a flag should be: the column is not named, for the integer
cannot be shown. -/
theorem oversized_flag_escapes :
    let row : Row := [("id", .uuid (Uuid.ofNat 7)), ("email", .text "a@b.c"),
      ("admin", .int (10 ^ 5000 : Nat)), ("verified", .bool false)]
    FirstUnreadable row .admin ∧
      (∃ failure, ofRow row = .error failure ∧ failure.name = "ValueError") ∧
      ∀ column reason, ofRow row ≠ .error (.gateway (.undecodable column reason)) := by
  intro row
  have long := Value.hasTooManyDigits_iff.mp (Value.hasTooManyDigits_pow (by decide : 4300 ≤ 5000))
  obtain ⟨first, failed⟩ := ofRow_of_unshowable (by decide : "a@b.c" ≠ "") (.int long)
  refine ⟨first, ⟨_, failed, rfl⟩, fun column reason named => ?_⟩
  cases failed.symm.trans named

end SignIn.User

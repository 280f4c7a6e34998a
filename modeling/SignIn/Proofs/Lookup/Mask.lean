/-
**What is shown of an address.**

An address has a part before its first `@` and a part behind it. The mask keeps two characters of the
first part and the whole of the second:

* `maskEmail_eq_iff`: so two addresses have the same mask exactly if they agree in these two;
* `reportByEmail_congr`: a lookup by address reports the same for addresses with the same mask;
* `entries_reportByEmail_eq_iff`: and what it logs tells two other addresses apart;
* `shown_eq_iff`: the same holds of a user that is shown;
* `address_shown_as_mask`: all of it, over two runs of a lookup with the same answer of the directory.
-/

import SignIn.Lookup
import SignIn.Proofs.Text.Split

namespace SignIn

/-! ### Addresses and their masks -/

/-- The two parts of an address: what stands before the first `@`, and what stands behind it. Without an
`@`, all of it stands before and nothing behind. -/
inductive EmailParts (email : String) : List Char → List Char → Prop where
  | divided {start domain : List Char} (free : '@' ∉ start)
      (whole : email.toList = start ++ '@' :: domain) : EmailParts email start domain
  | undivided (free : '@' ∉ email.toList) : EmailParts email email.toList []

/-- Two addresses agree in what is shown of them: in the first two characters of the part before the
first `@`, and in everything behind it. -/
def ShownAlike (first second : String) : Prop :=
  ∃ start other domain, EmailParts first start domain ∧ EmailParts second other domain ∧
    start.take 2 = other.take 2

variable {email first second : String} {start domain : List Char}

/-- Every address has two parts. -/
theorem exists_emailParts (email : String) : ∃ start domain, EmailParts email start domain := by
  by_cases divided : '@' ∈ email.toList
  · obtain ⟨start, domain, whole, free⟩ := List.eq_append_cons_of_mem divided
    exact ⟨start, domain, .divided free whole⟩
  · exact ⟨_, _, .undivided divided⟩

/-- **The mask of an address shows its parts.** -/
theorem EmailParts.maskEmail_eq (parts : EmailParts email start domain) :
    maskEmail email = String.ofList (start.take 2 ++ "***@".toList ++ domain) := by
  show String.ofList ((email.toList.takeWhile (· != '@')).take 2 ++ "***@".toList ++
    (email.toList.dropWhile (· != '@')).drop 1) = _
  cases parts with
  | divided free whole =>
    rw [whole, Text.takeWhile_ne_append free, Text.dropWhile_ne_append free, List.drop_succ_cons,
      List.drop_zero]
  | undivided free =>
    rw [Text.takeWhile_ne_of_not_mem free, Text.dropWhile_ne_of_not_mem free, List.drop_nil]

theorem EmailParts.free (parts : EmailParts email start domain) : '@' ∉ start := by
  cases parts with
  | divided free whole => exact free
  | undivided free => exact free

/-- **Two addresses have the same mask exactly if they agree in what is shown of them**, whatever
stars and further marks there are in them. -/
theorem maskEmail_eq_iff : maskEmail first = maskEmail second ↔ ShownAlike first second := by
  constructor
  · intro same
    obtain ⟨start, domain, parts⟩ := exists_emailParts first
    obtain ⟨other, otherDomain, otherParts⟩ := exists_emailParts second
    rw [parts.maskEmail_eq, otherParts.maskEmail_eq, String.ofList_inj] at same
    -- In a mask, too, no `@` stands in front of the one behind the stars.
    have free : ∀ {start : List Char}, '@' ∉ start → '@' ∉ start.take 2 ++ "***".toList := by
      intro start absent inside
      rcases List.mem_append.mp inside with shown | star
      · exact absent (List.mem_of_mem_take shown)
      · exact absurd star (by decide)
    have divided : ∀ start domain : List Char, start.take 2 ++ "***@".toList ++ domain =
        (start.take 2 ++ "***".toList) ++ '@' :: domain := by
      intro start domain
      simp
    rw [divided, divided, Text.append_mark_inj (free parts.free) (free otherParts.free)] at same
    obtain ⟨starts, rfl⟩ := same
    exact ⟨start, other, domain, parts, otherParts, List.append_cancel_right starts⟩
  · rintro ⟨start, other, domain, parts, otherParts, same⟩
    rw [parts.maskEmail_eq, otherParts.maskEmail_eq, same]

/-! ### A user that is shown -/

theorem User.shown_of_parts {user : User} (parts : EmailParts user.email start domain) :
    user.shown = "User(id=" ++ user.id.text ++ ", email=" ++
      String.ofList (start.take 2 ++ "***@".toList ++ domain) ++ ", admin=" ++
        Value.shownBool user.admin ++ ")" := by
  unfold shown
  rw [parts.maskEmail_eq]

/-- **Of an address, a user that is shown shows the mask only.** -/
theorem User.shown_eq_iff {user other : User} (id : user.id = other.id)
    (admin : user.admin = other.admin) :
    user.shown = other.shown ↔ maskEmail user.email = maskEmail other.email := by
  unfold shown
  rw [id, admin, String.append_left_inj, String.append_left_inj, String.append_left_inj,
    String.append_right_inj]

/-! ### A lookup by address -/

namespace Lookup

variable {α : Type} {answer : Except Failure (Option α)}

/-- **A lookup reports the same for addresses with the same mask.** -/
theorem reportByEmail_congr (same : maskEmail first = maskEmail second) :
    reportByEmail first answer = reportByEmail second answer := by
  match answer with
  | .ok (some _) => rfl
  | .ok none => rw [reportByEmail, reportByEmail, same]
  | .error failure =>
    cases failure with
    | gateway fault => rw [reportByEmail, reportByEmail, same]
    | _ => rfl

/-- **What a lookup logs tells addresses with other masks apart**, unless it logs nothing. -/
theorem entries_reportByEmail_eq_iff :
    (reportByEmail first answer).entries = (reportByEmail second answer).entries ↔
      (reportByEmail first answer).entries = [] ∨ maskEmail first = maskEmail second := by
  match answer with
  | .ok (some _) => exact iff_of_true rfl (Or.inl rfl)
  | .ok none => simp [reportByEmail]
  | .error failure =>
    cases failure with
    | gateway fault => simp [reportByEmail]
    | _ => exact iff_of_true rfl (Or.inl rfl)

/-- **A lookup by address shows of it the mask and nothing else.** Where the directory answers the same,
it ends in the same way and logs the same for addresses that agree in what is shown of them, and what it
logs tells any two others apart. The mask tells exactly the two parts of an address that it shows; a user
that is shown has the same mask, and shows no more of the address. -/
theorem address_shown_as_mask :
    (∀ {σ τ α : Type} (directory : Directory (StateM σ) α) (other : Directory (StateM τ) α)
        (state : σ) (otherState : τ) (first second : String),
      ((directory.findByEmail first).run state).1 =
          ((other.findByEmail second).run otherState).1 →
        let report := ((byEmail directory first).run state).1
        let otherReport := ((byEmail other second).run otherState).1
        (ShownAlike first second →
            report.outcome = otherReport.outcome ∧ report.entries = otherReport.entries) ∧
          (report.entries = otherReport.entries →
            report.entries = [] ∨ ShownAlike first second)) ∧
    (∀ first second, maskEmail first = maskEmail second ↔ ShownAlike first second) ∧
    (∀ user : User, ∃ start domain, EmailParts user.email start domain ∧
      let mask := String.ofList (start.take 2 ++ "***@".toList ++ domain)
      maskEmail user.email = mask ∧
        user.shown = "User(id=" ++ user.id.text ++ ", email=" ++ mask ++ ", admin=" ++
          Value.shownBool user.admin ++ ")") ∧
    ∀ user other : User, user.id = other.id → user.admin = other.admin →
      (user.shown = other.shown ↔ ShownAlike user.email other.email) := by
  refine ⟨?_, fun first second => maskEmail_eq_iff, fun user => ?_, fun user other id admin => ?_⟩
  · intro σ τ α directory other state otherState first second answers report otherReport
    have here : report = reportByEmail first ((directory.findByEmail first).run state).1 := rfl
    have there : otherReport = reportByEmail second ((directory.findByEmail first).run state).1 := by
      rw [answers]
      rfl
    rw [here, there, entries_reportByEmail_eq_iff, maskEmail_eq_iff]
    refine ⟨fun alike => ⟨?_, Or.inr alike⟩, id⟩
    rw [reportByEmail_congr (maskEmail_eq_iff.mpr alike)]
  · obtain ⟨start, domain, parts⟩ := exists_emailParts user.email
    exact ⟨start, domain, parts, parts.maskEmail_eq, User.shown_of_parts parts⟩
  · rw [User.shown_eq_iff id admin, maskEmail_eq_iff]

/-- Two addresses with two marks each that agree in what is shown of them cannot be told apart when the
row of each does not decode, a third one can; nor can two users that have them. -/
theorem two_addresses_look_alike :
    let script : Directory.Script Unit := ⟨fun _ => .error (.gateway (.unmappable "no user")),
      fun _ => .ok none, fun _ => .ok .null, fun _ => .ok .null⟩
    let report := fun email => ((byEmail (Directory.scripted script) email).run []).1
    let user := fun email => User.mk (Uuid.ofNat 7) email true false
    (report "al*ce@b@c").outcome = (report "alfred@b@c").outcome ∧
      (report "al*ce@b@c").entries = (report "alfred@b@c").entries ∧
      (report "al*ce@b@c").entries ≠ (report "al*ce@c").entries ∧
      (user "al*ce@b@c").shown = (user "alfred@b@c").shown := by
  intro script report user
  obtain ⟨runs, -, -, shown⟩ := address_shown_as_mask
  have alike : ShownAlike "al*ce@b@c" "alfred@b@c" :=
    ⟨"al*ce".toList, "alfred".toList, "b@c".toList, .divided (by decide) rfl,
      .divided (by decide) rfl, rfl⟩
  have other : ¬ ShownAlike "al*ce@b@c" "al*ce@c" := by
    rw [← maskEmail_eq_iff]
    decide
  obtain ⟨outcome, entries⟩ := (runs (Directory.scripted script) (Directory.scripted script) [] []
    "al*ce@b@c" "alfred@b@c" rfl).1 alike
  refine ⟨outcome, entries, fun same => ?_,
    (shown (user "al*ce@b@c") (user "alfred@b@c") rfl rfl).mpr alike⟩
  rcases (runs (Directory.scripted script) (Directory.scripted script) [] [] "al*ce@b@c" "al*ce@c"
    rfl).2 same with silent | looksAlike
  · cases silent
  · exact other looksAlike

end Lookup

end SignIn

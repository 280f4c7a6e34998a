/-
**Which candidate decides, and how acceptance grows.**

Of two candidates for a redirect only the first one present counts. A target that is accepted stays
accepted when the configuration allows more, or when the target goes on:

* `validate_eq_iff`: the first candidate present tells how a validation ends, and what it logs;
* `accepts_iff`: a target is accepted exactly if one of the three rules allows it;
* `Accepts.mono`: what a configuration accepts, every wider one accepts with any text behind it;
* `first_present_decides`: all of it, as it is seen from outside.
-/

import SignIn.Proofs.Redirect

namespace SignIn.Redirect

variable {dev : Bool} {siteUrl first second : Option String} {target : String}

/-! ### How a validation ends -/

/-- How a validation ends, by the first candidate present: with nothing if there is none; with that
candidate, and in silence, if the rules allow it; else with a failure, and with one warning that shows
how the candidate begins. -/
inductive Ends (rules : Rules) : Option String → Report (Option String) → Prop where
  | nothing : Ends rules none ⟨.ok none, []⟩
  | accepted {candidate : String} (allowed : rules.allows candidate = true) :
      Ends rules (some candidate) ⟨.ok (some candidate), []⟩
  | rejected {candidate : String} (refused : rules.allows candidate = false) :
      Ends rules (some candidate) ⟨.error (.badRequest "Invalid redirect"),
        [⟨.warning, "Rejected redirect target",
          [("redirect", .text (String.ofList (candidate.toList.take 64))),
            ("dev", .bool rules.dev)]⟩]⟩

theorem Rules.judge_eq_iff {rules : Rules} {candidate : String} {report : Report (Option String)} :
    rules.judge candidate = report ↔ Ends rules (some candidate) report := by
  unfold judge
  constructor
  · rintro rfl
    split
    · rename_i allowed
      exact Ends.accepted allowed
    · rename_i refused
      exact Ends.rejected (Bool.eq_false_iff.mpr refused)
  · intro ends
    cases ends with
    | accepted allowed => exact if_pos allowed
    | rejected refused => exact if_neg (Bool.eq_false_iff.mp refused)

/-- **The first candidate present tells how a validation ends.** -/
theorem Rules.validate_eq_iff {rules : Rules} {report : Report (Option String)} :
    rules.validate first second = report ↔ Ends rules (first.or second) report := by
  match first, second with
  | some candidate, _ => exact judge_eq_iff
  | none, some candidate => exact judge_eq_iff
  | none, none =>
    constructor
    · rintro rfl
      exact Ends.nothing
    · intro ends
      cases ends
      rfl

/-! ### What is accepted -/

/-- A configuration accepts a target: it comes out when it is the first candidate. -/
def Accepts (dev : Bool) (siteUrl : Option String) (target : String) : Prop :=
  (validate dev siteUrl (some target) none).outcome = .ok (some target)

theorem accepts_iff_allows :
    Accepts dev siteUrl target ↔ (Rules.configure dev siteUrl).allows target = true :=
  Rules.judge_eq_ok_some_iff.trans (and_iff_right rfl)

/-- **The three rules**, one of which allows each accepted target. -/
theorem accepts_iff :
    Accepts dev siteUrl target ↔ "/".toList <+: target.toList ∨
      (dev = true ∧ localHost.toList <+: target.toList) ∨ BeginsWithSite siteUrl target := by
  rw [accepts_iff_allows, Rules.allows_iff, startsWith_siteUrl_configure_iff, Rules.dev_configure,
    Text.startsWith_iff, Text.startsWith_iff]

/-- The second of two configurations is at least as wide as the first: it has development mode if the
first has it, and if the first has a site, its own site begins that one. -/
structure Wider (dev : Bool) (siteUrl : Option String) (otherDev : Bool)
    (otherSite : Option String) : Prop where
  mode : dev = true → otherDev = true
  site : ∀ url, siteUrl = some url → url ≠ "" →
    ∃ start, otherSite = some start ∧ start ≠ "" ∧ start.toList <+: url.toList

theorem BeginsWithSite.mono {otherDev : Bool} {otherSite : Option String} {longer : String}
    (wider : Wider dev siteUrl otherDev otherSite) (longerText : target.toList <+: longer.toList)
    (begins : BeginsWithSite siteUrl target) : BeginsWithSite otherSite longer := by
  obtain ⟨url, configured, nonempty, before⟩ := begins
  obtain ⟨start, also, named, shorter⟩ := wider.site url configured nonempty
  exact ⟨start, also, named, shorter.trans (before.trans longerText)⟩

/-- **Acceptance only grows**, with the configuration and with the target. -/
theorem Accepts.mono {otherDev : Bool} {otherSite : Option String} {longer : String}
    (wider : Wider dev siteUrl otherDev otherSite) (longerText : target.toList <+: longer.toList)
    (accepted : Accepts dev siteUrl target) : Accepts otherDev otherSite longer := by
  rw [accepts_iff] at accepted ⊢
  rcases accepted with slash | ⟨developing, onLocalHost⟩ | begins
  · exact Or.inl (slash.trans longerText)
  · exact Or.inr (Or.inl ⟨wider.mode developing, onLocalHost.trans longerText⟩)
  · exact Or.inr (Or.inr (begins.mono wider longerText))

/-- No configuration accepts the empty text. -/
theorem not_accepts_empty : ¬ Accepts dev siteUrl "" := by
  have nothing : ∀ {start : String}, start ≠ "" → ¬ start.toList <+: "".toList := by
    intro start nonempty begins
    exact nonempty (String.toList_inj.mp (List.prefix_nil.mp begins))
  rw [accepts_iff]
  rintro (slash | ⟨-, onLocalHost⟩ | ⟨url, -, named, begins⟩)
  · exact nothing (by decide) slash
  · exact nothing (by decide) onLocalHost
  · exact nothing named begins

/-! ### What is seen of a validation -/

/-- What is seen of a validation: nothing comes out exactly if there is no candidate, else the first
one present if the rules allow it, in silence. If they do not, the failure is always the same, and one
warning shows the first sixty-four characters of that candidate. -/
structure Decided (rules : Rules) (first second : Option String) (report : Report (Option String)) :
    Prop where
  nothing_iff : report.outcome = .ok none ↔ first = none ∧ second = none
  accepted_iff : ∀ candidate, first.or second = some candidate →
    (report.outcome = .ok (some candidate) ↔ rules.allows candidate = true)
  rejected_of_not_allows : ∀ candidate, first.or second = some candidate →
    rules.allows candidate = false →
      report.outcome = .error (.badRequest "Invalid redirect") ∧
        ∃ entry, report.entries = [entry] ∧ entry.level = .warning ∧
          entry.fields.lookup "redirect" =
            some (.text (String.ofList (candidate.toList.take 64)))
  silent_of_ok : ∀ result, report.outcome = .ok result →
    result = first.or second ∧ report.entries = []

theorem Ends.decided {rules : Rules} {report : Report (Option String)}
    (ends : Ends rules (first.or second) report) : Decided rules first second report := by
  have absent : first = none ∧ second = none ↔ first.or second = none := Option.or_eq_none_iff.symm
  constructor
  · rw [absent]
    generalize first.or second = candidate at ends
    cases ends <;> simp
  · intro candidate present
    rw [present] at ends
    cases ends with
    | accepted allowed => simp [allowed]
    | rejected refused => simp [refused]
  · intro candidate present refused
    rw [present] at ends
    cases ends with
    | accepted allowed => cases allowed.symm.trans refused
    | rejected => exact ⟨rfl, _, rfl, rfl, rfl⟩
  · intro result ok
    generalize first.or second = candidate at ends
    cases ends with
    | nothing | accepted => exact ⟨(Except.ok.inj ok).symm, rfl⟩
    | rejected => cases ok

/-- **The first candidate present decides, and acceptance only grows.** -/
theorem first_present_decides (dev : Bool) (siteUrl : Option String) :
    (∀ first second,
      Decided (Rules.configure dev siteUrl) first second
          ((Rules.configure dev siteUrl).validate first second) ∧
        validate dev siteUrl first second = (Rules.configure dev siteUrl).validate first second) ∧
    (∀ target second other,
      validate dev siteUrl (some target) second = validate dev siteUrl (some target) other) ∧
    (∀ target, Accepts false siteUrl target → Accepts true siteUrl target) ∧
    (∀ target, Accepts dev none target → Accepts dev siteUrl target) ∧
    (∀ url start target, start ≠ "" → start.toList <+: url.toList →
      Accepts dev (some url) target → Accepts dev (some start) target) ∧
    (∀ target text, Accepts dev siteUrl target → Accepts dev siteUrl (target ++ text)) ∧
    ¬ Accepts dev siteUrl "" ∧
    Rules.configure dev (some "") = Rules.configure dev none := by
  refine ⟨fun first second => ⟨(Rules.validate_eq_iff.mp rfl).decided, rfl⟩, fun _ _ _ => rfl, ?_, ?_,
    ?_, ?_, not_accepts_empty, rfl⟩
  · intro target accepted
    exact accepted.mono ⟨fun _ => rfl, fun url configured named =>
      ⟨url, configured, named, List.prefix_rfl⟩⟩ List.prefix_rfl
  · intro target accepted
    refine accepted.mono ⟨id, ?_⟩ List.prefix_rfl
    rintro _ ⟨⟩
  · intro url start target nonempty begins accepted
    refine accepted.mono ⟨id, ?_⟩ List.prefix_rfl
    rintro _ ⟨⟩ -
    exact ⟨start, rfl, nonempty, begins⟩
  · intro target text accepted
    refine accepted.mono ⟨id, fun url configured named => ⟨url, configured, named, List.prefix_rfl⟩⟩ ?_
    rw [String.toList_append]
    exact List.prefix_append _ _

/-- A first candidate that is not allowed is not replaced by a second one that is, not even if it is
empty; of a long one sixty-four characters are logged. What one site accepts, development mode, a site
that begins that one, and the same site for a longer target accept, too. -/
theorem refused_first_hides_second :
    let site := some "https://ex.com/app"
    let rules := Rules.configure false site
    let long := String.ofList (List.replicate 70 'é')
    let target := "https://ex.com/app/1"
    (rules.validate (some "") (some "/x")).outcome = .error (.badRequest "Invalid redirect") ∧
      (∃ entry, (rules.validate (some long) (some "/x")).entries = [entry] ∧
        entry.level = .warning ∧
        entry.fields.lookup "redirect" = some (.text (String.ofList (List.replicate 64 'é')))) ∧
      Accepts true site target ∧ Accepts false site "/x" ∧
      Accepts false (some "https://ex.com") target ∧ Accepts false site (target ++ "?tab=2") := by
  intro site rules long target
  obtain ⟨decided, -, developing, unnamed, shorter, longer, -⟩ := first_present_decides false site
  have accepted : Accepts false site target := accepts_iff_allows.mpr (by decide)
  have path : Accepts false none "/x" := accepts_iff_allows.mpr (by decide)
  obtain ⟨-, -, empty, -⟩ := (decided (some "") (some "/x")).1
  obtain ⟨-, -, cut, -⟩ := (decided (some long) (some "/x")).1
  obtain ⟨-, entry, entries, level, shown⟩ := cut long rfl (by decide +kernel)
  refine ⟨(empty "" rfl (by decide)).1, ⟨entry, entries, level, shown.trans ?_⟩,
    developing target accepted, unnamed "/x" path,
    shorter "https://ex.com/app" "https://ex.com" target (by decide) (by decide) accepted,
    longer target "?tab=2" accepted⟩
  rw [String.toList_ofList, List.take_replicate]
  rfl

end SignIn.Redirect

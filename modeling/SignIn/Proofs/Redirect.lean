/-
**Where a redirect may lead.**

A target stays within the allowed sites if it is a path of this site, or begins with the local host
during development or with the configured site. What the rules accept is told apart by the first two
characters:

* `startsWith_slash_iff`: what begins with a slash is a path of this site, or a network path, which
  a browser reads as the name of another host;
* `validate_eq_ok_some_iff`: a target is accepted exactly if it is the first candidate present and
  the rules allow it;
* `accepted_iff`: so the only accepted targets outside the allowed sites are network paths that do
  not begin with the configured site.
-/

import SignIn.Redirect

namespace SignIn

theorem Text.startsWith_iff {text start : String} :
    Text.startsWith text start = true ↔ start.toList <+: text.toList :=
  List.isPrefixOf_iff_prefix

namespace Redirect

/-! ### Targets -/

/-- A slash, or a backslash, which browsers take for one. -/
def IsSlash (c : Char) : Prop :=
  c = '/' ∨ c.toNat = 0x5C

/-- A target that begins with a slash and does not go on with a second one: a path of the site that
it stands on. -/
def LocalPath (target : String) : Prop :=
  ∃ rest, target.toList = '/' :: rest ∧ ∀ c ∈ rest.head?, ¬ IsSlash c

/-- A target that begins with two slashes: what follows names a host. -/
def NetworkPath (target : String) : Prop :=
  ∃ c rest, target.toList = '/' :: c :: rest ∧ IsSlash c

/-- A target that begins with the configured site URL, which is not empty. -/
def BeginsWithSite (siteUrl : Option String) (target : String) : Prop :=
  ∃ url, siteUrl = some url ∧ url ≠ "" ∧ url.toList <+: target.toList

/-- The targets within the allowed sites. -/
inductive Within (dev : Bool) (siteUrl : Option String) (target : String) : Prop where
  | path (onSite : LocalPath target)
  | localHost (developing : dev = true) (begins : "http://localhost".toList <+: target.toList)
  | site (begins : BeginsWithSite siteUrl target)

variable {dev : Bool} {siteUrl : Option String} {target : String}

/-- **What begins with a slash is a path of this site or a network path.** -/
theorem startsWith_slash_iff :
    Text.startsWith target "/" = true ↔ LocalPath target ∨ NetworkPath target := by
  rw [Text.startsWith_iff]
  constructor
  · rintro ⟨rest, begins⟩
    -- The slash may be all there is; else the character behind it decides.
    cases rest with
    | nil => exact Or.inl ⟨[], begins.symm, by simp⟩
    | cons c behind =>
      by_cases slash : IsSlash c
      · exact Or.inr ⟨c, behind, begins.symm, slash⟩
      · refine Or.inl ⟨c :: behind, begins.symm, fun d member => ?_⟩
        cases member
        exact slash
  · rintro (⟨rest, begins, -⟩ | ⟨c, rest, begins, -⟩)
    · exact ⟨rest, begins.symm⟩
    · exact ⟨c :: rest, begins.symm⟩

theorem not_localPath_of_networkPath (network : NetworkPath target) : ¬ LocalPath target := by
  obtain ⟨c, rest, begins, slash⟩ := network
  rintro ⟨behind, others, single⟩
  rw [begins] at others
  cases others
  exact single c rfl slash

/-- A network path begins with no scheme. -/
theorem not_localHost_of_networkPath (network : NetworkPath target) :
    ¬ "http://localhost".toList <+: target.toList := by
  obtain ⟨c, rest, begins, -⟩ := network
  rw [begins]
  rintro ⟨behind, same⟩
  cases same

/-! ### The rules -/

@[simp] theorem Rules.dev_configure : (Rules.configure dev siteUrl).dev = dev := by
  unfold Rules.configure
  split
  · rfl
  · split <;> rfl

/-- An empty site URL is none. -/
theorem Rules.siteUrl_configure_eq_some_iff {url : String} :
    (Rules.configure dev siteUrl).siteUrl = some url ↔ siteUrl = some url ∧ url ≠ "" := by
  unfold Rules.configure
  split
  · simp
  · rename_i configured
    split
    · rename_i empty
      subst empty
      simp [eq_comm]
    · rename_i named
      simp only [Option.some.injEq]
      exact ⟨fun same => ⟨same, same ▸ named⟩, fun both => both.1⟩

/-- What begins with the site URL of a configuration begins with the one that was configured. -/
theorem startsWith_siteUrl_configure_iff :
    (∃ url, (Rules.configure dev siteUrl).siteUrl = some url ∧ Text.startsWith target url = true) ↔
      BeginsWithSite siteUrl target := by
  simp only [Rules.siteUrl_configure_eq_some_iff, Text.startsWith_iff, and_assoc]
  rfl

/-- **The three rules**: a target is allowed if one of them allows it. -/
theorem Rules.allows_iff {rules : Rules} :
    rules.allows target = true ↔ Text.startsWith target "/" = true ∨
      (rules.dev = true ∧ Text.startsWith target localHost = true) ∨
      ∃ url, rules.siteUrl = some url ∧ Text.startsWith target url = true := by
  unfold Rules.allows
  split
  · rename_i slash
    exact iff_of_true rfl (Or.inl slash)
  · rename_i noSlash
    rw [or_iff_right noSlash, ← Bool.and_eq_true]
    split
    · rename_i onLocalHost
      exact iff_of_true rfl (Or.inl onLocalHost)
    · rename_i notLocalHost
      rw [or_iff_right notLocalHost]
      cases rules.siteUrl with
      | none => simp
      | some url => simp

/-- **The rules allow the targets within the allowed sites, and every network path.** -/
theorem allows_configure_iff :
    (Rules.configure dev siteUrl).allows target = true ↔
      Within dev siteUrl target ∨ NetworkPath target := by
  rw [Rules.allows_iff, startsWith_slash_iff, Rules.dev_configure, startsWith_siteUrl_configure_iff,
    Text.startsWith_iff]
  constructor
  · rintro ((onSite | network) | ⟨developing, begins⟩ | begins)
    · exact Or.inl (Within.path onSite)
    · exact Or.inr network
    · exact Or.inl (Within.localHost developing begins)
    · exact Or.inl (Within.site begins)
  · rintro ((onSite | ⟨developing, begins⟩ | begins) | network)
    · exact Or.inl (Or.inl onSite)
    · exact Or.inr (Or.inl ⟨developing, begins⟩)
    · exact Or.inr (Or.inr begins)
    · exact Or.inl (Or.inr network)

theorem Rules.judge_eq_ok_some_iff {rules : Rules} {candidate : String} :
    (rules.judge candidate).outcome = .ok (some target) ↔
      candidate = target ∧ rules.allows target = true := by
  unfold Rules.judge
  split
  · rename_i allowed
    constructor
    · intro accepted
      cases accepted
      exact ⟨rfl, allowed⟩
    · rintro ⟨rfl, -⟩
      rfl
  · rename_i rejected
    constructor
    · intro accepted
      cases accepted
    · rintro ⟨rfl, allowed⟩
      exact absurd allowed rejected

/-- **A target is accepted exactly if it is the first candidate present and the rules allow it.** -/
theorem Rules.validate_eq_ok_some_iff {rules : Rules} {first second : Option String} :
    (rules.validate first second).outcome = .ok (some target) ↔
      first.or second = some target ∧ rules.allows target = true := by
  match first, second with
  | some candidate, _ =>
    rw [Option.some_or, Option.some.injEq]
    exact judge_eq_ok_some_iff
  | none, some candidate =>
    rw [Option.none_or, Option.some.injEq]
    exact judge_eq_ok_some_iff
  | none, none => exact iff_of_false (fun accepted => nomatch accepted) (fun both => nomatch both.1)

/-! ### What is accepted outside the allowed sites -/

/-- A network path stays within the allowed sites only if the configured site begins it. -/
theorem within_iff_of_networkPath (network : NetworkPath target) :
    Within dev siteUrl target ↔ BeginsWithSite siteUrl target := by
  constructor
  · rintro (onSite | ⟨-, begins⟩ | begins)
    · exact absurd onSite (not_localPath_of_networkPath network)
    · exact absurd begins (not_localHost_of_networkPath network)
    · exact begins
  · exact Within.site

/-- **The accepted targets outside the allowed sites are the network paths that the configured site
does not begin**; every other accepted target is within them. -/
theorem accepted_iff (dev : Bool) (siteUrl first second : Option String) (target : String) :
    ((validate dev siteUrl first second).outcome = .ok (some target) ↔
      first.or second = some target ∧ (Within dev siteUrl target ∨ NetworkPath target)) ∧
    ((validate dev siteUrl first second).outcome = .ok (some target) ∧ ¬ Within dev siteUrl target ↔
      first.or second = some target ∧ NetworkPath target ∧ ¬ BeginsWithSite siteUrl target) := by
  have accepted : (validate dev siteUrl first second).outcome = .ok (some target) ↔
      first.or second = some target ∧ (Within dev siteUrl target ∨ NetworkPath target) := by
    rw [← allows_configure_iff]
    exact Rules.validate_eq_ok_some_iff
  refine ⟨accepted, ?_⟩
  rw [accepted]
  constructor
  · rintro ⟨⟨present, within | network⟩, outside⟩
    · exact absurd within outside
    · exact ⟨present, network, fun begins => outside (Within.site begins)⟩
  · rintro ⟨present, network, foreign⟩
    exact ⟨⟨present, Or.inr network⟩, fun within => foreign
      ((within_iff_of_networkPath network).mp within)⟩

/-- Without development mode and without a site, a target that names another host is accepted. -/
theorem network_path_accepted :
    (validate false none (some "//evil.example/login") none).outcome =
        .ok (some "//evil.example/login") ∧
      NetworkPath "//evil.example/login" ∧ ¬ Within false none "//evil.example/login" := by
  have network : NetworkPath "//evil.example/login" :=
    ⟨'/', "evil.example/login".toList, rfl, Or.inl rfl⟩
  refine ⟨rfl, network, fun within => ?_⟩
  obtain ⟨url, configured, -⟩ := (within_iff_of_networkPath network).mp within
  cases configured

end Redirect

end SignIn

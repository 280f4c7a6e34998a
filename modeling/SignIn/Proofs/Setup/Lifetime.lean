/-
**A configured lifetime reaches the browser unchanged.**

The settings give the lifetimes of the three reserved cookies in whole seconds. They are turned into
durations, and back into seconds when a header is written; a duration of whole seconds is a double
exactly, so nothing is lost on the way:

* `ofSeconds?_eq_some_iff`: a number of seconds is a duration within the range of days;
* `wholeSeconds_of_ofSeconds?`: and it is read off that duration again;
* `cookiePolicy_cases`: a policy is made exactly if all three are durations;
* `exists_render_reserved_iff`: its cookies can be written with any value within Latin-1;
* `lifetimesIn_of_render`: a client reads one lifetime in a header, which is that of the cookie;
* `lifetimes_reach_headers`: all of it, from the settings to the header.
-/

import SignIn.Proofs.Duration
import SignIn.Proofs.Http.SetCookie
import SignIn.Setup.Provision

namespace SignIn

/-! ### Seconds as durations -/

namespace Duration

/-- Whether a number of seconds lies between the shortest and the longest duration. -/
def InRange (seconds : ℤ) : Prop :=
  -86399999913600 ≤ seconds ∧ seconds ≤ 86399999999999

theorem ofSeconds?_eq_some_iff {seconds : ℤ} {duration : Duration} :
    ofSeconds? seconds = some duration ↔
      InRange seconds ∧ duration.micros = seconds * microsPerSecond := by
  have range : InRange seconds ↔ minMicros ≤ seconds * microsPerSecond ∧
      seconds * microsPerSecond ≤ maxMicros := by
    unfold InRange minMicros maxMicros microsPerSecond
    omega
  unfold ofSeconds? ofMicros?
  split_ifs with within
  · rw [Option.some.injEq]
    constructor
    · rintro rfl
      exact ⟨range.mpr within, rfl⟩
    · rintro ⟨-, same⟩
      obtain ⟨micros, least, most⟩ := duration
      subst same
      rfl
  · simp [range, within]

theorem ofSeconds?_eq_none_iff {seconds : ℤ} : ofSeconds? seconds = none ↔ ¬ InRange seconds := by
  constructor
  · intro missing inRange
    obtain ⟨duration, made⟩ : ∃ duration, ofSeconds? seconds = some duration :=
      ⟨⟨seconds * microsPerSecond, by unfold minMicros microsPerSecond; have := inRange.1; omega,
        by unfold maxMicros microsPerSecond; have := inRange.2; omega⟩,
        ofSeconds?_eq_some_iff.mpr ⟨inRange, rfl⟩⟩
    exact absurd (missing.symm.trans made) (by simp)
  · intro outside
    rw [Option.eq_none_iff_forall_not_mem]
    exact fun duration made => outside (ofSeconds?_eq_some_iff.mp made).1

/-- **A duration of whole seconds has these seconds.** -/
theorem wholeSeconds_of_ofSeconds? {seconds : ℤ} {duration : Duration}
    (made : ofSeconds? seconds = some duration) : duration.wholeSeconds = seconds := by
  obtain ⟨⟨least, most⟩, micros⟩ := ofSeconds?_eq_some_iff.mp made
  have size : duration.micros.natAbs = seconds.natAbs * microsPerSecond := by
    rw [micros, Int.natAbs_mul, Int.natAbs_natCast]
  have sign : duration.micros.sign = seconds.sign := by
    rw [micros, Int.sign_mul]
    exact mul_one _
  have exact : (Number.nearestQuotient duration.micros.natAbs microsPerSecond).floor = seconds.natAbs := by
    apply le_antisymm
    · exact Number.floor_nearestQuotient_le (by decide) (by omega) size.le
    · exact Number.le_floor_nearestQuotient (by decide) (by omega) size.ge
  rw [wholeSeconds_eq, exact, sign, Int.sign_mul_natAbs]

end Duration

/-! ### The policy of the settings -/

/-- The seconds that the settings give to a reserved cookie. -/
def Settings.lifetimeSeconds (settings : Settings) : Reserved → ℤ
  | .authToken => settings.authTokenTtlSeconds
  | .refreshToken => settings.refreshTokenTtlSeconds
  | .oauthState => settings.oauthStateTtlSeconds

/-- A reserved cookie as a policy makes it. -/
def Policy.reserved (policy : Policy) (value : String) : Reserved → Cookie
  | .authToken => policy.authToken value
  | .refreshToken => policy.refreshToken value
  | .oauthState => policy.oauthState value

/-- **A policy is made exactly if all lifetimes are durations**, which are then those of its cookies. -/
theorem cookiePolicy_cases (settings : Settings) :
    (∃ policy, settings.cookiePolicy = .ok policy ∧ ∀ (reserved : Reserved) (value : String),
        Duration.ofSeconds? (settings.lifetimeSeconds reserved) =
          some (policy.reserved value reserved).maxAge) ∨
      settings.cookiePolicy = .error .lifetimeOutOfRange ∧
        ∃ reserved, Duration.ofSeconds? (settings.lifetimeSeconds reserved) = none := by
  unfold Settings.cookiePolicy Policy.ofLifetimes
  split
  · rename_i auth refresh state authOf refreshOf stateOf
    refine Or.inl ⟨_, rfl, fun reserved value => ?_⟩
    cases reserved with
    | authToken => exact authOf
    | refreshToken => exact refreshOf
    | oauthState => exact stateOf
  · rename_i incomplete
    refine Or.inr ⟨rfl, ?_⟩
    by_contra complete
    rw [not_exists] at complete
    obtain ⟨auth, authOf⟩ := Option.ne_none_iff_exists'.mp (complete .authToken)
    obtain ⟨refresh, refreshOf⟩ := Option.ne_none_iff_exists'.mp (complete .refreshToken)
    obtain ⟨state, stateOf⟩ := Option.ne_none_iff_exists'.mp (complete .oauthState)
    exact incomplete auth refresh state authOf refreshOf stateOf

theorem Policy.path_reserved (policy : Policy) (value : String) (reserved : Reserved) :
    (policy.reserved value reserved).path = Cookie.rootPath := by
  cases reserved <;> rfl

/-! ### The lifetime in a header -/

namespace SetCookie

variable {cookie : Cookie} {header : String}

/-- The lifetime that an attribute names, if that is what it is for. -/
def lifetime? (part : List Char) : Option String :=
  (part.dropPrefix? "Max-Age=".toList).map String.ofList

/-- The lifetimes that a client reads in a header. -/
def lifetimesIn (header : String) : List String :=
  (attributesIn header).filterMap lifetime?

/-- Whether a character is an ASCII character that can be seen. -/
def isVisible (c : Char) : Bool :=
  0x21 ≤ c.toNat && c.toNat ≤ 0x7E

theorem trim_of_visible {text : List Char} (visible : text.all isVisible = true) :
    Text.trim text = text := by
  have noBlank : ∀ c ∈ text, Text.isBlank c = false := by
    intro c member
    have range := List.all_eq_true.mp visible c member
    unfold isVisible at range
    rw [Bool.and_eq_true, decide_eq_true_eq, decide_eq_true_eq] at range
    exact Text.not_isBlank_of_range range
  exact Text.dropEnds_eq_self (fun c first => noBlank c (List.mem_of_mem_head? first))
    (fun c last => noBlank c (List.mem_of_mem_getLast? last))

/-- The attributes of a cookie for the whole site have no blanks. -/
theorem visible_attributeSegments (rooted : cookie.path = Cookie.rootPath) {part : List Char}
    (member : part ∈ attributeSegments cookie) : part.all isVisible = true := by
  have number : (toString cookie.maxAgeSeconds).toList.all isVisible = true := by
    rw [List.all_eq_true]
    intro c inside
    have token : isTokenChar c = true := by
      rcases mem_toString_int inside with digit | rfl
      · simp [isTokenChar, Char.isAlphanum, digit]
      · decide
    simpa [isVisible] using isTokenChar_range token
  have rule : cookie.sameSite.word.toList.all isVisible = true := by
    cases cookie.sameSite <;> decide
  rw [attributeSegments_of_path rooted] at member
  simp only [List.mem_append, List.mem_cons, List.not_mem_nil, or_false] at member
  rcases member with (rfl | rfl | rfl | rfl) | secure
  · decide
  · rw [List.all_append, number]
    decide
  · decide
  · rw [List.all_append, rule]
    decide
  · split_ifs at secure
    · rw [List.mem_singleton.mp secure]
      decide
    · cases secure

/-- A client reads the attributes of a cookie for the whole site as they are. -/
theorem attributesIn_of_rooted (written : render cookie = .ok header)
    (rooted : cookie.path = Cookie.rootPath) : attributesIn header = attributeSegments cookie := by
  have clean : ';' ∉ cookie.path.toList := by
    rw [rooted]
    decide
  rw [attributesIn_of_render written clean]
  exact (List.map_congr_left fun part member =>
    trim_of_visible (visible_attributeSegments rooted member)).trans (List.map_id _)

theorem lifetime?_append (text : String) :
    lifetime? ("Max-Age=".toList ++ text.toList) = some text := by
  have dropped : ("Max-Age=".toList ++ text.toList).dropPrefix? "Max-Age=".toList = some text.toList :=
    List.dropPrefix?_append_of_beq _ rfl
  rw [lifetime?, dropped, Option.map_some, String.ofList_toList]

/-- **A client reads one lifetime in a header**, the one of the cookie. -/
theorem lifetimesIn_of_render (written : render cookie = .ok header)
    (rooted : cookie.path = Cookie.rootPath) : lifetimesIn header = [toString cookie.maxAgeSeconds] := by
  have rule : lifetime? ("SameSite=".toList ++ cookie.sameSite.word.toList) = none := by
    cases cookie.sameSite <;> decide
  have mark : (if cookie.secure then ["Secure".toList] else []).filterMap lifetime? = [] := by
    cases cookie.secure <;> decide
  rw [lifetimesIn, attributesIn_of_rooted written rooted, attributeSegments_of_path rooted,
    List.filterMap_append, mark, List.append_nil, List.filterMap_cons_none (by decide),
    List.filterMap_cons_some (lifetime?_append _), List.filterMap_cons_none (by decide),
    List.filterMap_cons_none rule, List.filterMap_nil]

/-- A reserved cookie can be written exactly if its value stays within Latin-1. -/
theorem exists_render_reserved_iff (policy : Policy) (reserved : Reserved) (value : String) :
    (∃ header, render (policy.reserved value reserved) = .ok header) ↔
      value.toList.all isLatin1 = true := by
  have free : attributeWords.contains (Text.lower reserved.key) = false := by
    cases reserved <;> decide +kernel
  have token : isToken reserved.key.toList = true := by
    cases reserved <;> decide
  have path : (policy.reserved value reserved).path.toList.all Text.isPrintableAscii = true := by
    rw [policy.path_reserved]
    decide
  cases reserved <;> exact exists_render_iff free token path

end SetCookie

/-! ### From the settings to the header -/

/-- **A configured lifetime reaches the browser unchanged.** A policy is made exactly if each of the
three lifetimes is in range, and otherwise that is what fails. A reserved cookie that the policy makes
can be written exactly if its value stays within Latin-1, and its header names one lifetime, which is the
configured number in decimal digits. -/
theorem lifetimes_reach_headers (settings : Settings) :
    ((∃ policy, settings.cookiePolicy = .ok policy) ↔
        ∀ reserved, -86399999913600 ≤ settings.lifetimeSeconds reserved ∧
          settings.lifetimeSeconds reserved ≤ 86399999999999) ∧
      (∀ fault, settings.cookiePolicy = .error fault →
        fault = .lifetimeOutOfRange ∧ fault.name = "OverflowError") ∧
      ∀ policy, settings.cookiePolicy = .ok policy →
        ∀ (reserved : Reserved) (value : String),
          ((∃ header, SetCookie.render (policy.reserved value reserved) = .ok header) ↔
              value.toList.all SetCookie.isLatin1 = true) ∧
            ∀ header, SetCookie.render (policy.reserved value reserved) = .ok header →
              SetCookie.lifetimesIn header = [toString (settings.lifetimeSeconds reserved)] := by
  rcases cookiePolicy_cases settings with ⟨policy, made, lifetimes⟩ | ⟨failed, reserved, missing⟩
  · refine ⟨⟨fun _ reserved => ?_, fun _ => ⟨policy, made⟩⟩, fun fault error => ?_, ?_⟩
    · exact (Duration.ofSeconds?_eq_some_iff.mp (lifetimes reserved "")).1
    · cases made.symm.trans error
    · intro other also reserved value
      obtain rfl : policy = other := Except.ok.inj (made.symm.trans also)
      refine ⟨SetCookie.exists_render_reserved_iff policy reserved value, fun header written => ?_⟩
      rw [SetCookie.lifetimesIn_of_render written (policy.path_reserved value reserved)]
      have seconds := Duration.wholeSeconds_of_ofSeconds? (lifetimes reserved value)
      exact congrArg (fun number => [toString number]) seconds
  · refine ⟨⟨?_, fun inRange => ?_⟩, fun fault error => ?_, fun policy made => ?_⟩
    · rintro ⟨policy, made⟩
      cases failed.symm.trans made
    · exact absurd (inRange reserved) (Duration.ofSeconds?_eq_none_iff.mp missing)
    · obtain rfl : SetupFault.lifetimeOutOfRange = fault := Except.error.inj (failed.symm.trans error)
      exact ⟨rfl, rfl⟩
    · cases failed.symm.trans made

/-- The longest and the shortest lifetime reach the browser with all their digits; with one second more
there is no policy, though the other two lifetimes are as they were. -/
theorem extreme_lifetimes_reach_headers :
    let settings : Settings := ⟨"Auth Policy", "local", "INFO", false, none, "sqlite://", 5, 10, 1800,
      false, 86399999999999, -86399999913600, 600⟩
    let policy : Policy := ⟨false, ⟨86399999999999000000, by decide, by decide⟩,
      ⟨-86399999913600000000, by decide, by decide⟩, ⟨600000000, by decide, by decide⟩⟩
    let longest := "auth_token=t; HttpOnly; Max-Age=86399999999999; Path=/; SameSite=strict; Secure"
    let shortest :=
      "refresh_token=t; HttpOnly; Max-Age=-86399999913600; Path=/; SameSite=strict; Secure"
    settings.cookiePolicy = .ok policy ∧
      SetCookie.render (policy.authToken "t") = .ok longest ∧
      SetCookie.lifetimesIn longest = ["86399999999999"] ∧
      SetCookie.render (policy.refreshToken "t") = .ok shortest ∧
      SetCookie.lifetimesIn shortest = ["-86399999913600"] ∧
      ¬ ∃ other, { settings with authTokenTtlSeconds := 86400000000000 }.cookiePolicy = .ok other := by
  intro settings policy longest shortest
  have made : settings.cookiePolicy = .ok policy := rfl
  have writtenLongest : SetCookie.render (policy.authToken "t") = .ok longest := by
    decide +kernel
  have writtenShortest : SetCookie.render (policy.refreshToken "t") = .ok shortest := by
    decide +kernel
  obtain ⟨-, -, reaches⟩ := lifetimes_reach_headers settings
  refine ⟨made, writtenLongest, (reaches policy made .authToken "t").2 longest writtenLongest,
    writtenShortest, (reaches policy made .refreshToken "t").2 shortest writtenShortest, ?_⟩
  rw [(lifetimes_reach_headers _).1]
  exact fun inRange => absurd (inRange .authToken).2 (by decide)

end SignIn

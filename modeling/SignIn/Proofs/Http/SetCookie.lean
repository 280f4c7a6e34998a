/-
**A Set-Cookie header says what its cookie says, and nothing else.**

The name and the value of a cookie may be any texts, also such as try to end the header or to add
attributes to it. A cookie that is made by this library (`Cookie.Made`) either cannot be written, or
its header has the parts of the cookie and no others:

* `printable_of_render`: its characters are printable ASCII, so a header cannot be divided in two;
* `exists_render_iff`: what is refused is a value beyond Latin-1;
* `splitOn_render`: between its semicolons stand the parts of the cookie;
* `eq_of_render`: cookies with one header say the same;
* `header_says_its_cookie`: all of it, for the cookies made here.

A character beyond Latin-1 stands for itself in a coded value, and it is the header as a whole that
is refused then. So what a part may contain is not a property of the part alone.
-/

import Mathlib
import SignIn.Cookie.Policy
import SignIn.Proofs.Http.Header

namespace SignIn

/-! ### Cookies made here -/

/-- The cookies that this library makes: by the mode, with attributes chosen one by one, by a policy,
or to remove another cookie. -/
inductive Cookie.Made : Cookie → Prop where
  | forMode {dev : Bool} {key value : String} {ttl : Duration} {cookie : Cookie}
      (checked : (Attributes.forMode dev key value ttl).check = .ok cookie) : Made cookie
  | chosen {tlsOnly sameSite : Bool} {key value : String} {ttl : Duration} {cookie : Cookie}
      (checked : (Attributes.chosen tlsOnly sameSite key value ttl).check = .ok cookie) : Made cookie
  | build {policy : Policy} {key value : String} {ttl : Duration} {cookie : Cookie}
      (built : policy.build key value ttl = .ok cookie) : Made cookie
  | authToken (policy : Policy) (value : String) : Made (policy.authToken value)
  | refreshToken (policy : Policy) (value : String) : Made (policy.refreshToken value)
  | oauthState (policy : Policy) (value : String) : Made (policy.oauthState value)
  | removal (key : String) (named : key ≠ "") : Made (Jar.removal key named)

/-- Every cookie made here is for the whole site. -/
theorem Cookie.Made.path_eq {cookie : Cookie} (made : cookie.Made) : cookie.path = rootPath := by
  have rooted : ∀ {attributes : Attributes} {cookie : Cookie}, attributes.check = .ok cookie →
      attributes.path = rootPath → cookie.path = rootPath := by
    intro attributes cookie checked root
    rw [(check_eq_ok_iff attributes cookie).mp checked, root]
  cases made with
  | forMode checked => exact rooted checked rfl
  | chosen checked => exact rooted checked rfl
  | build built => exact rooted built rfl
  | authToken _ _ | refreshToken _ _ | oauthState _ _ | removal _ _ => rfl

namespace SetCookie

variable {cookie other : Cookie} {header : String}

/-! ### The characters of a header -/

theorem isPrintableAscii_iff {c : Char} :
    Text.isPrintableAscii c = true ↔ 0x20 ≤ c.toNat ∧ c.toNat ≤ 0x7E := by
  unfold Text.isPrintableAscii
  rw [Bool.and_eq_true, decide_eq_true_eq, decide_eq_true_eq]

theorem printable_of_isDigit {c : Char} (digit : c.isDigit = true) :
    Text.isPrintableAscii c = true := by
  obtain ⟨low, high⟩ := Bool.and_eq_true _ _ |>.mp digit
  have least : 0x30 ≤ c.toNat := of_decide_eq_true low
  have most : c.toNat ≤ 0x39 := of_decide_eq_true high
  exact isPrintableAscii_iff.mpr ⟨by omega, by omega⟩

/-- A character of a header is a printable ASCII character, unless the path has brought it, or it is a
character of the value beyond Latin-1. -/
theorem Origin.printable_or_beyond {c : Char} (origin : Origin cookie c)
    (token : isToken cookie.key.toList = true)
    (path : cookie.path.toList.all Text.isPrintableAscii = true) :
    Text.isPrintableAscii c = true ∨ c ∈ cookie.value.toList ∧ isLatin1 c = false := by
  cases origin with
  | key inKey =>
    have each := List.all_eq_true.mp (Bool.and_eq_true _ _ |>.mp token).2
    have range := isTokenChar_range (each c inKey)
    exact Or.inl (isPrintableAscii_iff.mpr ⟨by omega, range.2⟩)
  | value inValue =>
    exact (mem_codedValue inValue).imp_left fun safe => isPrintableAscii_iff.mpr ⟨safe.1, safe.2.1⟩
  | path inPath => exact Or.inl (List.all_eq_true.mp path c inPath)
  | lifetime number =>
    left
    rcases mem_toString_int number with digit | rfl
    · exact printable_of_isDigit digit
    · decide
  | word inWord =>
    have all : wording.all Text.isPrintableAscii = true := by decide
    exact Or.inl (List.all_eq_true.mp all c inWord)

theorem Origin.printable {c : Char} (origin : Origin cookie c)
    (token : isToken cookie.key.toList = true) (latin : isLatin1 c = true)
    (path : cookie.path.toList.all Text.isPrintableAscii = true) :
    Text.isPrintableAscii c = true := by
  rcases origin.printable_or_beyond token path with printable | ⟨-, beyond⟩
  · exact printable
  · cases latin.symm.trans beyond

/-- **The characters of a header are printable ASCII characters**, if those of the path are. -/
theorem printable_of_render (written : render cookie = .ok header)
    (path : cookie.path.toList.all Text.isPrintableAscii = true) :
    header.toList.all Text.isPrintableAscii = true := by
  obtain ⟨-, token, latin, rfl⟩ := (render_eq_ok_iff cookie header).mp written
  rw [String.toList_ofList, List.all_eq_true]
  intro c member
  rcases mem_joinSegments member with between | ⟨part, inside, here⟩
  · have all : "; ".toList.all Text.isPrintableAscii = true := by decide
    exact List.all_eq_true.mp all c between
  · have latin := List.all_eq_true.mp latin c member
    exact (origin_of_mem_segments inside here).printable token latin path

theorem isLatin1_of_printable {c : Char} (printable : Text.isPrintableAscii c = true) :
    isLatin1 c = true := by
  have range := isPrintableAscii_iff.mp printable
  exact decide_eq_true (by omega)

/-- **A cookie can be written exactly if its value stays within Latin-1**, if its name is a token that
names no attribute. -/
theorem exists_render_iff (free : attributeWords.contains (Text.lower cookie.key) = false)
    (token : isToken cookie.key.toList = true)
    (path : cookie.path.toList.all Text.isPrintableAscii = true) :
    (∃ header, render cookie = .ok header) ↔ cookie.value.toList.all isLatin1 = true := by
  constructor
  · rintro ⟨header, written⟩
    obtain ⟨-, rest, form⟩ := exists_of_render written
    have latin : header.toList.all isLatin1 = true := List.all_eq_true.mpr fun c member =>
      isLatin1_of_printable (List.all_eq_true.mp (printable_of_render written path) c member)
    rw [List.all_eq_true]
    intro c member
    by_contra beyond
    rw [Bool.not_eq_true] at beyond
    have inHeader : c ∈ header.toList := by
      rw [form]
      simp [mem_codedValue_of_beyond member beyond]
    cases (List.all_eq_true.mp latin c inHeader).symm.trans beyond
  · intro latin
    refine ⟨_, (render_eq_ok_iff cookie _).mpr
      ⟨free, token, List.all_eq_true.mpr fun c member => ?_, rfl⟩⟩
    rcases mem_joinSegments member with between | ⟨part, inside, here⟩
    · have all : "; ".toList.all isLatin1 = true := by decide
      exact List.all_eq_true.mp all c between
    · rcases (origin_of_mem_segments inside here).printable_or_beyond token path with
        printable | ⟨inValue, beyond⟩
      · exact isLatin1_of_printable printable
      · cases (List.all_eq_true.mp latin c inValue).symm.trans beyond

/-! ### The parts of a header -/

/-- **Between the semicolons of a header stand the parts of its cookie**, each but the first behind a
space, if the path has no semicolon. -/
theorem splitOn_render (written : render cookie = .ok header) (path : ';' ∉ cookie.path.toList) :
    Text.splitOn ';' header.toList =
      (cookie.key.toList ++ '=' :: codedValue cookie.value.toList) ::
        (attributeSegments cookie).map (' ' :: ·) := by
  obtain ⟨-, token, -, rfl⟩ := (render_eq_ok_iff cookie header).mp written
  rw [String.toList_ofList, segments_eq, splitOn_joinSegments]
  rw [← segments_eq]
  exact fun part member => semicolon_not_mem_segments token path member

/-- The attributes of a cookie for the whole site. -/
theorem attributeSegments_of_path (rooted : cookie.path = Cookie.rootPath) :
    attributeSegments cookie =
      ["HttpOnly".toList, "Max-Age=".toList ++ (toString cookie.maxAgeSeconds).toList,
        "Path=/".toList, "SameSite=".toList ++ cookie.sameSite.word.toList] ++
      if cookie.secure then ["Secure".toList] else [] := by
  have named : cookie.path ≠ "" := by
    rw [rooted]
    decide
  unfold attributeSegments segments
  rw [if_neg named, rooted]
  rfl

/-! ### Two cookies with one header -/

/-- Two cookies of which a header says the same. -/
structure SaysSame (cookie other : Cookie) : Prop where
  key_eq : other.key = cookie.key
  value_eq : other.value = cookie.value
  maxAgeSeconds_eq : other.maxAgeSeconds = cookie.maxAgeSeconds
  secure_eq : other.secure = cookie.secure
  sameSite_eq : other.sameSite = cookie.sameSite

theorem codedValue_injective {first second : List Char} (same : codedValue first = codedValue second) :
    first = second := by
  rw [← CookieHeader.decodedValue_codedValue first, same, CookieHeader.decodedValue_codedValue]

theorem word_injective {first second : SameSite} (same : first.word = second.word) :
    first = second := by
  cases first with
  | strict =>
    cases second with
    | strict => rfl
    | lax => exact absurd same (by decide)
  | lax =>
    cases second with
    | strict => exact absurd same (by decide)
    | lax => rfl

/-- The attributes of a cookie for the whole site tell its lifetime, its rule for other sites and
whether it is secure. -/
theorem eq_of_attributeSegments (rooted : cookie.path = Cookie.rootPath)
    (otherRooted : other.path = Cookie.rootPath)
    (same : attributeSegments other = attributeSegments cookie) :
    other.maxAgeSeconds = cookie.maxAgeSeconds ∧ other.secure = cookie.secure ∧
      other.sameSite = cookie.sameSite := by
  rw [attributeSegments_of_path rooted, attributeSegments_of_path otherRooted] at same
  simp only [List.cons_append, List.nil_append, List.cons.injEq, List.append_cancel_left_eq,
    String.toList_inj, true_and] at same
  obtain ⟨lifetime, rule, mark⟩ := same
  refine ⟨Int.repr_injective lifetime, ?_, word_injective rule⟩
  cases secure : cookie.secure <;> cases otherSecure : other.secure
  · rfl
  · rw [secure, otherSecure] at mark
    cases mark
  · rw [secure, otherSecure] at mark
    cases mark
  · rfl

/-- **Cookies for the whole site that have one header say the same.** -/
theorem eq_of_render (written : render cookie = .ok header) (also : render other = .ok header)
    (rooted : cookie.path = Cookie.rootPath) (otherRooted : other.path = Cookie.rootPath) :
    SaysSame cookie other := by
  have clean : ∀ {path : String}, path = Cookie.rootPath → ';' ∉ path.toList := by
    rintro _ rfl
    decide
  have names := (nameIn_of_render also).symm.trans (nameIn_of_render written)
  have coded := (codedIn_of_render also).symm.trans (codedIn_of_render written)
  have values : other.value.toList = cookie.value.toList :=
    codedValue_injective (String.ofList_injective coded)
  have parts := (splitOn_render also (clean otherRooted)).symm.trans
    (splitOn_render written (clean rooted))
  have attributes : attributeSegments other = attributeSegments cookie :=
    List.map_injective_iff.mpr (List.cons_injective) (List.cons.inj parts).2
  obtain ⟨lifetime, secure, rule⟩ := eq_of_attributeSegments rooted otherRooted attributes
  exact ⟨names, String.toList_inj.mp values, lifetime, secure, rule⟩

/-! ### Headers of cookies made here -/

/-- **A header says what its cookie says, and nothing else**, whatever the name and the value are. If a
cookie that is made here can be written, its header has printable ASCII characters only; between its
semicolons stand the name with the coded value, the attributes of the cookie and nothing more; and
the other cookies that have this header agree with this one in all that a header tells. -/
theorem header_says_its_cookie (made : cookie.Made) (written : render cookie = .ok header) :
    header.toList.all Text.isPrintableAscii = true ∧
      Text.splitOn ';' header.toList =
        (cookie.key.toList ++ '=' :: codedValue cookie.value.toList) ::
          (["HttpOnly".toList, "Max-Age=".toList ++ (toString cookie.maxAgeSeconds).toList,
            "Path=/".toList, "SameSite=".toList ++ cookie.sameSite.word.toList] ++
            if cookie.secure then ["Secure".toList] else []).map (' ' :: ·) ∧
      ∀ other : Cookie, other.Made → render other = .ok header → SaysSame cookie other := by
  have rooted := made.path_eq
  refine ⟨printable_of_render written ?_, ?_, fun other also same => ?_⟩
  · rw [rooted]
    decide
  · rw [← attributeSegments_of_path rooted]
    refine splitOn_render written ?_
    rw [rooted]
    decide
  · exact eq_of_render written same rooted also.path_eq

/-- A value that would end its part, name another path and begin a second header: all of it stays
between the quotes, and no other cookie made here has this header. -/
theorem breaking_value_stays_in_its_part :
    let policy : Policy := ⟨false, Duration.oneSecond, Duration.oneSecond, Duration.oneSecond⟩
    let cookie := policy.authToken "a; Path=/x\r\nSet-Cookie: b=c"
    let coded := "\"a\\073 Path=/x\\015\\012Set-Cookie: b=c\""
    let header :=
      "auth_token=" ++ coded ++ "; HttpOnly; Max-Age=1; Path=/; SameSite=strict; Secure"
    cookie.Made ∧ render cookie = .ok header ∧
      header.toList.all Text.isPrintableAscii = true ∧
      (Text.splitOn ';' header.toList).map String.ofList = ["auth_token=" ++ coded, " HttpOnly",
        " Max-Age=1", " Path=/", " SameSite=strict", " Secure"] ∧
      ∀ other : Cookie, other.Made → render other = .ok header → other.value = cookie.value := by
  intro policy cookie coded header
  have made : cookie.Made := .authToken policy _
  have written : render cookie = .ok header := by
    -- With the policy in its place the header can be computed.
    subst header coded cookie policy
    rfl
  obtain ⟨printable, parts, single⟩ := header_says_its_cookie made written
  refine ⟨made, written, printable, ?_, fun other also same => (single other also same).value_eq⟩
  rw [parts]
  decide

end SetCookie

end SignIn

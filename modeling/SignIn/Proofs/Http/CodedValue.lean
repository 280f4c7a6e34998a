/-
**Coded values are read back.**

The writer puts a value that is no token between double quotes, with escapes; the reader takes
off the quotes and resolves the escapes. The two are written apart from each other:

* `mem_codedValue`: a coded value has only printable ASCII characters and no semicolon, apart
  from the value's own characters beyond Latin-1;
* `decodedValue_codedValue`: reading a coded value gives the value, whatever it is — also when
  the value itself looks quoted or escaped;
* `trim_codedValue`: no blank stands at an end of a coded value.

An escape is read from the left, so the proof goes one written character at a time, with the
rest of the text arbitrary (`unescape_escape_append`).
-/

import SignIn.Http.CookieHeader
import SignIn.Proofs.Text.Strip

namespace SignIn

open CookieHeader SetCookie

/-! ### Characters -/

/-- The characters of a token are visible ASCII characters. -/
theorem SetCookie.isTokenChar_range {c : Char} (token : isTokenChar c = true) :
    0x21 ≤ c.toNat ∧ c.toNat ≤ 0x7E := by
  unfold isTokenChar at token
  rcases Bool.or_eq_true _ _ |>.mp token with letter | mark
  · have ranges : (0x41 ≤ c.toNat ∧ c.toNat ≤ 0x5A ∨ 0x61 ≤ c.toNat ∧ c.toNat ≤ 0x7A) ∨
        0x30 ≤ c.toNat ∧ c.toNat ≤ 0x39 := by
      rcases Bool.or_eq_true _ _ |>.mp letter with alpha | digit
      · rcases Bool.or_eq_true _ _ |>.mp alpha with upper | lower
        · exact Or.inl (Or.inl (of_decide_eq_true upper))
        · obtain ⟨low, high⟩ := Bool.and_eq_true _ _ |>.mp lower
          exact Or.inl (Or.inr ⟨of_decide_eq_true low, of_decide_eq_true high⟩)
      · obtain ⟨low, high⟩ := Bool.and_eq_true _ _ |>.mp digit
        exact Or.inr ⟨of_decide_eq_true low, of_decide_eq_true high⟩
    omega
  · have member : c ∈ "!#$%&'*+-.^_`|~:".toList := List.contains_iff_mem.mp mark
    have all : "!#$%&'*+-.^_`|~:".toList.all (fun d => 0x21 ≤ d.toNat && d.toNat ≤ 0x7E) = true := by
      decide
    simpa using List.all_eq_true.mp all c member

theorem SetCookie.ne_of_isTokenChar {c d : Char} (token : isTokenChar c = true)
    (other : isTokenChar d = false) : c ≠ d := by
  rintro rfl
  rw [token] at other
  cases other

theorem Text.not_isBlank_of_range {c : Char} (range : 0x21 ≤ c.toNat ∧ c.toNat ≤ 0x7E) :
    isBlank c = false := by
  unfold isBlank isSpace
  simp
  omega

theorem SetCookie.not_isBlank_of_isTokenChar {c : Char} (token : isTokenChar c = true) :
    Text.isBlank c = false :=
  Text.not_isBlank_of_range (isTokenChar_range token)

/-- The characters that show as themselves between quotes are printable ASCII characters. -/
theorem SetCookie.isPlain_range {c : Char} (plain : isPlain c = true) :
    0x20 ≤ c.toNat ∧ c.toNat ≤ 0x7E := by
  unfold isPlain at plain
  rcases Bool.or_eq_true _ _ |>.mp plain with token | mark
  · have range := isTokenChar_range token
    omega
  · have member : c ∈ " ()/<=>?@[]\x7b\x7d".toList := List.contains_iff_mem.mp mark
    have all : " ()/<=>?@[]\x7b\x7d".toList.all
        (fun d => 0x20 ≤ d.toNat && d.toNat ≤ 0x7E) = true := by decide
    simpa using List.all_eq_true.mp all c member

/-! ### Octal digits -/

theorem Text.fixedDigits_three (code : Nat) :
    fixedDigits 8 3 code = [digit (code / 8 / 8 % 8), digit (code / 8 % 8), digit (code % 8)] := rfl

theorem CookieHeader.octalValue?_digit {value : Nat} (octal : value < 8) :
    octalValue? (Text.digit value) = some value := by
  have all : ∀ value : Fin 8, octalValue? (Text.digit value.val) = some value.val := by decide
  exact all ⟨value, octal⟩

/-- The three octal digits of a character of Latin-1 name it. -/
theorem CookieHeader.octalChar?_digits {c : Char} (latin : isLatin1 c = true) :
    octalChar? (Text.digit (c.toNat / 8 / 8 % 8)) (Text.digit (c.toNat / 8 % 8))
      (Text.digit (c.toNat % 8)) = some c := by
  have small : c.toNat < 0x100 := by simpa [isLatin1] using latin
  have most : c.toNat / 8 / 8 % 8 ≤ 3 := by omega
  have value : 64 * (c.toNat / 8 / 8 % 8) + 8 * (c.toNat / 8 % 8) + c.toNat % 8 = c.toNat := by
    omega
  unfold octalChar?
  rw [octalValue?_digit (Nat.mod_lt _ (by decide)), octalValue?_digit (Nat.mod_lt _ (by decide)),
    octalValue?_digit (Nat.mod_lt _ (by decide))]
  show (if c.toNat / 8 / 8 % 8 ≤ 3 then _ else _) = _
  rw [if_pos most, value, Char.ofNat_toNat]
  rfl

/-! ### Escapes -/

theorem CookieHeader.unescape_cons {c : Char} (plain : c ≠ Text.backslash) (rest : List Char) :
    unescape (c :: rest) = c :: unescape rest := by
  rw [unescape, if_neg plain]

/-- An escape stands for the character that is read from it. -/
theorem CookieHeader.unescape_backslash {text left : List Char} {c : Char}
    (read : readEscape? text = some (c, left)) :
    unescape (Text.backslash :: text) = c :: unescape left := by
  rw [unescape, if_pos rfl]
  split
  · rename_i named tail found
    rw [read] at found
    cases found
    rfl
  · rename_i nothing
    rw [read] at nothing
    cases nothing

theorem CookieHeader.readEscape?_plain {c : Char} (noDigit : octalValue? c = none)
    (noFeed : c ≠ '\n') (rest : List Char) : readEscape? (c :: rest) = some (c, rest) := by
  have plain : ∀ tail, plainEscape? c tail = some (c, tail) := fun tail => if_neg noFeed
  match rest with
  | [] => exact plain []
  | [second] => exact plain [second]
  | second :: third :: tail =>
    have noOctal : octalChar? c second third = none := by
      unfold octalChar?
      rw [noDigit]
      rfl
    rw [readEscape?, noOctal]
    exact plain (second :: third :: tail)

theorem CookieHeader.readEscape?_octal {c : Char} (latin : isLatin1 c = true)
    (rest : List Char) : readEscape? (Text.fixedDigits 8 3 c.toNat ++ rest) = some (c, rest) := by
  rw [Text.fixedDigits_three]
  show readEscape? (_ :: _ :: _ :: rest) = _
  rw [readEscape?, octalChar?_digits latin]

/-- **One written character is read back**, whatever follows it. -/
theorem CookieHeader.unescape_escape_append (c : Char) (rest : List Char) :
    unescape (escape c ++ rest) = c :: unescape rest := by
  unfold escape
  split
  · rename_i marked
    have cases : c = Text.doubleQuote ∨ c = Text.backslash := by simpa using marked
    have noDigit : octalValue? c = none := by
      rcases cases with rfl | rfl <;> decide
    have noFeed : c ≠ '\n' := by
      rcases cases with rfl | rfl <;> decide
    exact unescape_backslash (readEscape?_plain noDigit noFeed rest)
  · rename_i unmarked
    have plain : c ≠ Text.backslash := by
      rintro rfl
      exact unmarked (by decide)
    split
    · exact unescape_cons plain rest
    · rename_i hidden
      have latin : isLatin1 c = true := by
        cases found : isLatin1 c with
        | true => rfl
        | false => exact absurd (by simp [found]) hidden
      exact unescape_backslash (readEscape?_octal latin rest)

theorem CookieHeader.unescape_flatMap_escape (value : List Char) :
    unescape (value.flatMap escape) = value := by
  induction value with
  | nil => rw [List.flatMap_nil, unescape]
  | cons c rest ih => rw [List.flatMap_cons, unescape_escape_append, ih]

/-! ### Characters of a coded value -/

/-- The characters that a coded value may have: printable ASCII without the semicolon, which
would end it. -/
def SetCookie.IsSafe (c : Char) : Prop :=
  0x20 ≤ c.toNat ∧ c.toNat ≤ 0x7E ∧ c ≠ ';'

theorem SetCookie.isSafe_of_isPlain {c : Char} (plain : isPlain c = true) : IsSafe c := by
  have range := isPlain_range plain
  refine ⟨range.1, range.2, ?_⟩
  rintro rfl
  exact absurd plain (by decide)

theorem SetCookie.isSafe_digit {value : Nat} (octal : value < 8) : IsSafe (Text.digit value) := by
  have all : ∀ value : Fin 8, 0x20 ≤ (Text.digit value.val).toNat ∧
      (Text.digit value.val).toNat ≤ 0x7E ∧ Text.digit value.val ≠ ';' := by decide
  exact all ⟨value, octal⟩

/-- How a character is written: safely, unless it is itself beyond Latin-1. -/
theorem SetCookie.mem_escape {c d : Char} (written : d ∈ escape c) :
    IsSafe d ∨ (d = c ∧ isLatin1 c = false) := by
  have slash : IsSafe Text.backslash := by unfold IsSafe; decide
  unfold escape at written
  split at written
  · rename_i marked
    have cases : c = Text.doubleQuote ∨ c = Text.backslash := by simpa using marked
    left
    simp only [List.mem_cons, List.not_mem_nil, or_false] at written
    rcases written with rfl | rfl
    · exact slash
    · rcases cases with rfl | rfl <;> unfold IsSafe <;> decide
  · split at written
    · rename_i shown
      have same : d = c := List.mem_singleton.mp written
      subst same
      rcases Bool.or_eq_true _ _ |>.mp shown with plain | beyond
      · exact Or.inl (isSafe_of_isPlain plain)
      · exact Or.inr ⟨rfl, by simpa using beyond⟩
    · left
      rw [Text.fixedDigits_three] at written
      simp only [List.mem_cons, List.not_mem_nil, or_false] at written
      rcases written with rfl | rfl | rfl | rfl
      · exact slash
      · exact isSafe_digit (Nat.mod_lt _ (by decide))
      · exact isSafe_digit (Nat.mod_lt _ (by decide))
      · exact isSafe_digit (Nat.mod_lt _ (by decide))

/-- **The characters of a coded value are safe**, apart from the value's own characters beyond
Latin-1. -/
theorem SetCookie.mem_codedValue {value : List Char} {d : Char} (written : d ∈ codedValue value) :
    IsSafe d ∨ (d ∈ value ∧ isLatin1 d = false) := by
  unfold codedValue at written
  split at written
  · rename_i token
    have each := (Bool.and_eq_true _ _ |>.mp token).2
    have plain : isPlain d = true := by
      unfold isPlain
      rw [List.all_eq_true.mp each d written, Bool.true_or]
    exact Or.inl (isSafe_of_isPlain plain)
  · have quote : IsSafe Text.doubleQuote := by unfold IsSafe; decide
    rw [List.cons_append, List.mem_cons, List.mem_append, List.mem_singleton,
      List.mem_flatMap] at written
    rcases written with rfl | ⟨c, member, inside⟩ | rfl
    · exact Or.inl quote
    · rcases mem_escape inside with safe | ⟨rfl, beyond⟩
      · exact Or.inl safe
      · exact Or.inr ⟨member, beyond⟩
    · exact Or.inl quote

theorem SetCookie.semicolon_not_mem_codedValue (value : List Char) : ';' ∉ codedValue value := by
  intro written
  rcases mem_codedValue written with safe | ⟨-, beyond⟩
  · exact safe.2.2 rfl
  · exact absurd beyond (by decide)

/-! ### Reading a coded value -/

theorem SetCookie.codedValue_cases (value : List Char) :
    (isToken value = true ∧ codedValue value = value) ∨
      codedValue value = Text.doubleQuote :: (value.flatMap escape ++ [Text.doubleQuote]) := by
  unfold codedValue
  split
  · rename_i token
    exact Or.inl ⟨token, rfl⟩
  · exact Or.inr rfl

/-- A character beyond Latin-1 stands in the coded value as it is. -/
theorem SetCookie.mem_codedValue_of_beyond {value : List Char} {c : Char} (member : c ∈ value)
    (beyond : isLatin1 c = false) : c ∈ codedValue value := by
  rcases codedValue_cases value with ⟨-, same⟩ | quoted
  · rwa [same]
  · have itself : c ∈ escape c := by
      unfold escape
      split
      · exact List.mem_cons_of_mem _ List.mem_cons_self
      · simp [beyond]
    rw [quoted]
    exact List.mem_cons_of_mem _ (List.mem_append_left _ (List.mem_flatMap.mpr ⟨c, member, itself⟩))

/-- **A coded value is read back**, whatever the value is. -/
theorem CookieHeader.decodedValue_codedValue (value : List Char) :
    decodedValue (codedValue value) = value := by
  unfold decodedValue
  rcases codedValue_cases value with ⟨token, same⟩ | quoted
  · rw [same]
    split
    · rename_i marks
      -- a token does not begin with a quote
      have parts := Bool.and_eq_true _ _ |>.mp token
      cases value with
      | nil => cases parts.1
      | cons first rest =>
        simp only [List.head?_cons, Bool.and_eq_true, beq_iff_eq, Option.some.injEq] at marks
        have tokenChar := List.all_eq_true.mp parts.2 first List.mem_cons_self
        exact absurd marks.1.2 (ne_of_isTokenChar tokenChar (by decide))
    · rfl
  · rw [quoted, if_pos]
    · rw [List.drop_succ_cons, List.drop_zero, List.dropLast_concat, unescape_flatMap_escape]
    · simp [List.getLast?_cons]

/-! ### Blanks around a coded value -/

theorem SetCookie.trim_of_isToken {text : List Char} (token : isToken text = true) :
    Text.trim text = text := by
  have each := List.all_eq_true.mp (Bool.and_eq_true _ _ |>.mp token).2
  refine Text.dropEnds_eq_self (fun c first => ?_) (fun c last => ?_)
  · exact not_isBlank_of_isTokenChar (each c (List.mem_of_mem_head? first))
  · exact not_isBlank_of_isTokenChar (each c (List.mem_of_mem_getLast? last))

/-- **No blank stands at an end of a coded value.** -/
theorem SetCookie.trim_codedValue (value : List Char) :
    Text.trim (codedValue value) = codedValue value := by
  rcases codedValue_cases value with ⟨token, same⟩ | quoted
  · rw [same, trim_of_isToken token]
  · have kept : Text.isBlank Text.doubleQuote = false := by decide
    rw [quoted]
    refine Text.dropEnds_eq_self (fun c first => ?_) (fun c last => ?_)
    · cases first
      exact kept
    · rw [← List.cons_append, List.getLast?_concat] at last
      cases last
      exact kept

end SignIn

/-
**What is written in base64url is read back.**

Three bytes are regrouped into four characters, and a rest of one or two bytes is filled up:

* `decode_encode`: the reader undoes the regrouping, for all bytes;
* `exists_unpadded`: an encoding is symbols of the alphabet, as many as the bits need, with the unused
  bits of the last one zero, and then as much padding as bytes are missing from the last group;
* `dropPadding_encode`: taking the padding away takes nothing else.
-/

import Mathlib.Algebra.Group.Nat.Defs
import Mathlib.Data.List.Basic
import SignIn.Digest.Base64Url

namespace SignIn.Base64Url

/-! ### The alphabet -/

/-- The characters of the alphabet. -/
def IsUrlSafe (c : Char) : Prop :=
  'A' ≤ c ∧ c ≤ 'Z' ∨ 'a' ≤ c ∧ c ≤ 'z' ∨ '0' ≤ c ∧ c ≤ '9' ∨ c = '-' ∨ c = '_'

instance : DecidablePred IsUrlSafe := fun c =>
  inferInstanceAs (Decidable ('A' ≤ c ∧ c ≤ 'Z' ∨ _))

/-- A character that stands for a value below sixty-four. -/
def IsSymbol (c : Char) : Prop :=
  ∃ value < 64, c = symbol value

theorem isSymbol_symbol {value : ℕ} (small : value < 64) : IsSymbol (symbol value) :=
  ⟨value, small, rfl⟩

theorem value?_symbol {value : ℕ} (small : value < 64) : value? (symbol value) = some value := by
  have all : ∀ n : Fin 64, value? (symbol n) = some n.val := by decide +kernel
  exact all ⟨value, small⟩

theorem IsSymbol.isUrlSafe {c : Char} (isSymbol : IsSymbol c) : IsUrlSafe c := by
  obtain ⟨value, small, rfl⟩ := isSymbol
  have all : ∀ n : Fin 64, IsUrlSafe (symbol n) := by decide +kernel
  exact all ⟨value, small⟩

theorem IsSymbol.ne_padding {c : Char} (isSymbol : IsSymbol c) : c ≠ padding := by
  rintro rfl
  have none : ¬ IsUrlSafe padding := by decide
  exact none isSymbol.isUrlSafe

/-! ### Reading what was written -/

/-- Four symbols are read as three bytes, whatever follows. -/
theorem decode_symbols {w x y z : ℕ} (hw : w < 64) (hx : x < 64) (hy : y < 64) (hz : z < 64)
    (rest : List Char) :
    decode (symbol w :: symbol x :: symbol y :: symbol z :: rest) =
      (decode rest).map fun bytes => UInt8.ofNat (w * 4 + x / 16) ::
        UInt8.ofNat (x % 16 * 16 + y / 4) :: UInt8.ofNat (y % 4 * 64 + z) :: bytes := by
  have third := (isSymbol_symbol hy).ne_padding
  have fourth := (isSymbol_symbol hz).ne_padding
  cases rest with
  | nil => simp [decode, value?_symbol hw, value?_symbol hx, value?_symbol hy, value?_symbol hz, third,
      fourth]
  | cons next rest =>
    simp only [decode, value?_symbol hw, value?_symbol hx, value?_symbol hy, value?_symbol hz]
    cases decode (next :: rest) <;> rfl

/-- Two symbols before the padding are read as one byte, if the bits beyond it are zero. -/
theorem decode_two_symbols {w x : ℕ} (hw : w < 64) (hx : x < 64) (unused : x % 16 = 0) :
    decode [symbol w, symbol x, padding, padding] = some [UInt8.ofNat (w * 4 + x / 16)] := by
  simp [decode, value?_symbol hw, value?_symbol hx, unused]

/-- Three symbols before the padding are read as two bytes, if the bits beyond them are zero. -/
theorem decode_three_symbols {w x y : ℕ} (hw : w < 64) (hx : x < 64) (hy : y < 64)
    (unused : y % 4 = 0) :
    decode [symbol w, symbol x, symbol y, padding] =
      some [UInt8.ofNat (w * 4 + x / 16), UInt8.ofNat (x % 16 * 16 + y / 4)] := by
  have third := (isSymbol_symbol hy).ne_padding
  simp [decode, value?_symbol hw, value?_symbol hx, value?_symbol hy, third, unused]

/-- The first byte of a group, from its own first symbol and the second one. -/
theorem firstByte_eq (first : UInt8) {lower : ℕ} (small : lower < 16) :
    UInt8.ofNat (first.toNat / 4 * 4 + (first.toNat % 4 * 16 + lower) / 16) = first := by
  have whole : first.toNat / 4 * 4 + (first.toNat % 4 * 16 + lower) / 16 = first.toNat := by omega
  rw [whole, UInt8.ofNat_toNat]

/-- The second byte of a group, from the second symbol and the third one. -/
theorem secondByte_eq (upper : ℕ) (second : UInt8) {lower : ℕ} (small : lower < 4) :
    UInt8.ofNat ((upper * 16 + second.toNat / 16) % 16 * 16 + (second.toNat % 16 * 4 + lower) / 4) =
      second := by
  have bound := second.toNat_lt
  have whole : (upper * 16 + second.toNat / 16) % 16 * 16 + (second.toNat % 16 * 4 + lower) / 4 =
      second.toNat := by omega
  rw [whole, UInt8.ofNat_toNat]

/-- **What is written is read back.** -/
theorem decode_encode (bytes : List UInt8) : decode (encode bytes) = some bytes := by
  fun_induction encode bytes with
  | case1 => rfl
  | case2 first a =>
    have bound : a < 256 := first.toNat_lt
    have firstOf : UInt8.ofNat (a / 4 * 4 + a % 4 * 16 / 16) = first :=
      firstByte_eq first (by decide : 0 < 16)
    rw [decode_two_symbols (by omega) (by omega) (by omega), firstOf]
  | case3 first second a b =>
    have bound : a < 256 := first.toNat_lt
    have boundSecond : b < 256 := second.toNat_lt
    have secondOf : UInt8.ofNat ((a % 4 * 16 + b / 16) % 16 * 16 + b % 16 * 4 / 4) = second :=
      secondByte_eq (a % 4) second (by decide : 0 < 4)
    rw [decode_three_symbols (by omega) (by omega) (by omega) (by omega), secondOf,
      firstByte_eq first (by omega)]
  | case4 first second third rest a b c ih =>
    have bound : a < 256 := first.toNat_lt
    have boundSecond : b < 256 := second.toNat_lt
    have boundThird : c < 256 := third.toNat_lt
    have thirdOf : UInt8.ofNat ((b % 16 * 4 + c / 64) % 4 * 64 + c % 64) = third := by
      have whole : (b % 16 * 4 + c / 64) % 4 * 64 + c % 64 = c := by omega
      rw [whole, UInt8.ofNat_toNat]
    rw [decode_symbols (by omega) (by omega) (by omega) (by omega), ih, Option.map_some, thirdOf,
      firstByte_eq first (by omega), secondByte_eq (a % 4) second (by omega)]

/-! ### Padding -/

/-- How many bytes are missing from the last group. -/
def missing (bytes : List UInt8) : ℕ :=
  (3 - bytes.length % 3) % 3

/-- An encoding without its padding: symbols, as many as the bits need, with the unused bits of the last
one zero; and the padding is all that it lacks. -/
structure Unpadded (bytes : List UInt8) (body : List Char) : Prop where
  encode_eq : encode bytes = body ++ List.replicate (missing bytes) padding
  symbols : ∀ c ∈ body, IsSymbol c
  length_eq : body.length = (4 * bytes.length + 2) / 3
  last : ∀ c ∈ body.getLast?, ∃ value < 64, c = symbol value ∧ 4 ^ missing bytes ∣ value

theorem exists_unpadded (bytes : List UInt8) : ∃ body, Unpadded bytes body := by
  fun_induction encode bytes with
  | case1 => exact ⟨[], rfl, by simp, rfl, by simp⟩
  | case2 first a =>
    have bound : a < 256 := first.toNat_lt
    refine ⟨[symbol (a / 4), symbol (a % 4 * 16)], rfl, ?_, by simp, ?_⟩
    · simpa using ⟨isSymbol_symbol (by omega), isSymbol_symbol (by omega)⟩
    · simpa using ⟨_, by omega, rfl, Nat.dvd_mul_left 16 (a % 4)⟩
  | case3 first second a b =>
    have bound : a < 256 := first.toNat_lt
    have boundSecond : b < 256 := second.toNat_lt
    refine ⟨[symbol (a / 4), symbol (a % 4 * 16 + b / 16), symbol (b % 16 * 4)], rfl, ?_, by simp, ?_⟩
    · simpa using ⟨isSymbol_symbol (by omega), isSymbol_symbol (by omega), isSymbol_symbol (by omega)⟩
    · simpa using ⟨_, by omega, rfl, Nat.dvd_mul_left 4 (b % 16)⟩
  | case4 first second third rest a b c ih =>
    have bound : a < 256 := first.toNat_lt
    have boundSecond : b < 256 := second.toNat_lt
    have boundThird : c < 256 := third.toNat_lt
    obtain ⟨body, encoded, symbols, length, last⟩ := ih
    have same : missing (first :: second :: third :: rest) = missing rest := by
      simp [missing, Nat.add_assoc]
    refine ⟨symbol (a / 4) :: symbol (a % 4 * 16 + b / 16) :: symbol (b % 16 * 4 + c / 64) ::
      symbol (c % 64) :: body, ?_, ?_, ?_, ?_⟩
    · rw [same, encode, encoded]
      rfl
    · simpa using ⟨isSymbol_symbol (by omega), isSymbol_symbol (by omega), isSymbol_symbol (by omega),
        isSymbol_symbol (by omega), symbols⟩
    · simp only [List.length_cons]
      omega
    · rw [same]
      cases body with
      | nil =>
        have empty : rest = [] := by
          rw [List.length_nil] at length
          exact List.length_eq_zero_iff.mp (by omega)
        subst empty
        simpa [missing] using ⟨c % 64, by omega, rfl⟩
      | cons next others => simpa only [List.getLast?_cons_cons] using last

/-- **Taking the padding away takes nothing else.** -/
theorem dropPadding_encode {bytes : List UInt8} {body : List Char} (unpadded : Unpadded bytes body) :
    dropPadding (encode bytes) = body := by
  have kept : ∀ c ∈ body.reverse.head?, (c == padding) = false := by
    intro c member
    rw [List.head?_reverse] at member
    exact beq_false_of_ne (unpadded.symbols c (List.mem_of_mem_getLast? member)).ne_padding
  unfold dropPadding
  rw [unpadded.encode_eq, List.reverse_append, List.reverse_replicate, List.dropWhile_append_of_pos]
  · cases shape : body.reverse with
    | nil => rw [List.dropWhile_nil, ← shape, List.reverse_reverse]
    | cons c rest =>
      rw [List.dropWhile_cons_of_neg, ← shape, List.reverse_reverse]
      rw [shape] at kept
      simp [kept c rfl]
  · intro c member
    rw [List.eq_of_mem_replicate member]
    exact beq_self_eq_true padding

end SignIn.Base64Url

/-
**A quotient in double precision is the nearest double.**

A number of at most fifty-three significant bits is `Precise`. Of these, `nearestQuotient` gives the
one nearest to the exact quotient (`nearestQuotient_isNearest`), and nothing else about the
calculation is needed to tell its whole part:

* `le_floor_nearestQuotient`, `floor_nearestQuotient_le`: a quotient never passes a whole number when
  it is rounded, though it may arrive at one;
* `floor_nearestQuotient_mono`: the larger quotient has the larger whole part;
* `floor_nearestQuotient_eq_div`: while the numbers are small enough, it does not arrive either.

The exponent of a precise number is not bounded; neither end of the range of doubles matters here.
-/

import Mathlib
import SignIn.Number.Quotient

namespace SignIn.Number

variable {num den : ℕ}

/-! ### The nearest whole number -/

/-- The rounded quotient is the whole part of the exact one, or the next whole number. -/
theorem roundHalfEven_cases (num den : ℕ) :
    (roundHalfEven num den = num / den ∧ 2 * (num % den) ≤ den ∧
        (2 * (num % den) = den → Even (roundHalfEven num den))) ∨
      roundHalfEven num den = num / den + 1 ∧ den ≤ 2 * (num % den) ∧
        (2 * (num % den) = den → Even (roundHalfEven num den)) := by
  unfold roundHalfEven
  dsimp only
  split_ifs with less more even
  · exact Or.inl ⟨rfl, less.le, fun half => absurd half less.ne⟩
  · exact Or.inr ⟨rfl, more.le, fun half => absurd half more.ne'⟩
  · exact Or.inl ⟨rfl, by omega, fun _ => Nat.even_iff.mpr (by simpa using even)⟩
  · exact Or.inr ⟨rfl, by omega, fun _ => Nat.even_add_one.mpr (by simpa [Nat.even_iff] using even)⟩

/-- A half is the most by which the rounded quotient is off, and it is even where it is off by that. -/
theorem roundHalfEven_error (num : ℕ) (positive : 0 < den) :
    |(roundHalfEven num den : ℚ) - num / den| ≤ 1 / 2 ∧
      (|(roundHalfEven num den : ℚ) - num / den| = 1 / 2 → Even (roundHalfEven num den)) := by
  have cast : (0 : ℚ) < den := by exact_mod_cast positive
  obtain ⟨share, shareOf⟩ : ∃ share : ℚ, share * den = (num % den : ℕ) :=
    ⟨_, div_mul_cancel₀ _ cast.ne'⟩
  have exact : (num : ℚ) / den = (num / den : ℕ) + share := by
    rw [div_eq_iff cast.ne', add_mul, shareOf]
    exact_mod_cast (Nat.div_add_mod' num den).symm
  have nonneg : 0 ≤ share := by
    by_contra negative
    have := mul_neg_of_neg_of_pos (not_le.mp negative) cast
    rw [shareOf] at this
    exact absurd this (not_lt.mpr (Nat.cast_nonneg _))
  have half : share = 1 / 2 → 2 * (num % den) = den := by
    rintro rfl
    have whole : (2 : ℚ) * (num % den : ℕ) = den := by linarith
    exact_mod_cast whole
  rw [exact]
  rcases roundHalfEven_cases num den with ⟨below, small, even⟩ | ⟨above, large, even⟩
  · have bound : (2 : ℚ) * (num % den : ℕ) ≤ den := by exact_mod_cast small
    have distance : |(roundHalfEven num den : ℚ) - ((num / den : ℕ) + share)| = share := by
      rw [below, sub_add_cancel_left, abs_neg, abs_of_nonneg nonneg]
    rw [distance]
    exact ⟨le_of_mul_le_mul_right (by linarith) cast, fun tie => even (half tie)⟩
  · have bound : (den : ℚ) ≤ 2 * (num % den : ℕ) := by exact_mod_cast large
    have least : 1 / 2 ≤ share := le_of_mul_le_mul_right (by linarith) cast
    have most : share ≤ 1 := by
      have below : ((num % den : ℕ) : ℚ) ≤ den := by exact_mod_cast (Nat.mod_lt num positive).le
      exact le_of_mul_le_mul_right (by linarith) cast
    have distance : |(roundHalfEven num den : ℚ) - ((num / den : ℕ) + share)| = 1 - share := by
      rw [above, Nat.cast_add_one, add_sub_add_left_eq_sub, abs_of_nonneg (by linarith)]
    rw [distance]
    exact ⟨by linarith, fun tie => even (half (by linarith))⟩

/-- Two whole numbers, one of which is within a half of a number. -/
theorem half_le_of_ne {first second : ℤ} {exact : ℚ} (differ : first ≠ second)
    (near : |(first : ℚ) - exact| ≤ 1 / 2) : 1 / 2 ≤ |(second : ℚ) - exact| := by
  have apart : (1 : ℚ) ≤ |(first : ℚ) - second| := by
    exact_mod_cast Int.one_le_abs (sub_ne_zero.mpr differ)
  have triangle := abs_sub_le (first : ℚ) exact second
  rw [abs_sub_comm exact] at triangle
  linarith

/-- A whole number nearest to a number; of two equally near, the even one. -/
structure IsRounded (exact : ℚ) (whole : ℕ) : Prop where
  nearest : ∀ n : ℤ, |(whole : ℚ) - exact| ≤ |n - exact|
  even : ∀ n : ℤ, |n - exact| = |(whole : ℚ) - exact| → n ≠ whole → Even whole

/-- **The quotient is rounded to the nearest whole number, and from the middle to the even one.** -/
theorem roundHalfEven_isRounded (num : ℕ) (positive : 0 < den) :
    IsRounded (num / den) (roundHalfEven num den) := by
  obtain ⟨near, even⟩ := roundHalfEven_error num positive
  have far : ∀ n : ℤ, (roundHalfEven num den : ℤ) ≠ n → 1 / 2 ≤ |(n : ℚ) - num / den| :=
    fun n differ => half_le_of_ne differ (by exact_mod_cast near)
  refine ⟨fun n => ?_, fun n tie differ => ?_⟩
  · by_cases same : (roundHalfEven num den : ℤ) = n
    · rw [← same, Int.cast_natCast]
    · exact near.trans (far n same)
  · exact even (le_antisymm near (tie ▸ far n differ.symm))

/-! ### The nearest precise number -/

/-- The numbers of at most fifty-three significant bits. -/
def Precise (x : ℚ) : Prop :=
  ∃ (significand : ℕ) (exponent : ℤ), significand < 2 ^ 53 ∧ x = significand * 2 ^ exponent

/-- The number that a binary fraction is. -/
def Binary.value (x : Binary) : ℚ :=
  x.significand * 2 ^ (-x.places)

theorem precise_mul_zpow {n : ℕ} (small : n ≤ 2 ^ 53) (exponent : ℤ) : Precise (n * 2 ^ exponent) := by
  rcases small.lt_or_eq with less | rfl
  · exact ⟨n, exponent, less, rfl⟩
  · refine ⟨2 ^ 52, exponent + 1, by norm_num, ?_⟩
    rw [zpow_add₀ two_ne_zero]
    push_cast
    ring

theorem precise_natCast {n : ℕ} (small : n ≤ 2 ^ 53) : Precise n := by
  simpa using precise_mul_zpow small 0

/-- A power of two by shifts, one of which is by nothing. -/
theorem two_zpow_eq (k : ℤ) : (2 : ℚ) ^ k = 2 ^ k.toNat / 2 ^ (-k).toNat := by
  rcases le_total 0 k with nonneg | nonpos
  · obtain ⟨n, rfl⟩ := Int.eq_ofNat_of_zero_le nonneg
    simp
  · obtain ⟨n, hn⟩ := Int.eq_ofNat_of_zero_le (neg_nonneg.mpr nonpos)
    obtain rfl : k = -n := by omega
    simp

theorem cast_shiftLeft_div (num den : ℕ) (k : ℤ) :
    ((num <<< k.toNat : ℕ) : ℚ) / (den <<< (-k).toNat : ℕ) = num / den * 2 ^ k := by
  rw [two_zpow_eq, Nat.shiftLeft_eq, Nat.shiftLeft_eq]
  push_cast
  rw [mul_div_mul_comm]

theorem Binary.floor_eq (x : Binary) : x.floor = ⌊x.value⌋₊ := by
  have shifted : x.value = (x.significand <<< (-x.places).toNat : ℕ) / (2 ^ x.places.toNat : ℕ) := by
    unfold value
    rw [two_zpow_eq, Nat.shiftLeft_eq, neg_neg]
    push_cast
    rw [mul_div_assoc]
  rw [shifted, Nat.floor_div_eq_div, ← Nat.shiftRight_eq_div_pow]
  rfl

/-- **The exponent of a quotient** is that of the largest power of two below it. -/
theorem quotientLog2_spec (numPos : 0 < num) (denPos : 0 < den) :
    (2 : ℚ) ^ quotientLog2 num den ≤ num / den ∧
      (num : ℚ) / den < 2 ^ (quotientLog2 num den + 1) := by
  have cast : (0 : ℚ) < den := by exact_mod_cast denPos
  have numLow : (2 : ℚ) ^ num.log2 ≤ num := by exact_mod_cast Nat.log2_self_le numPos.ne'
  have numHigh : (num : ℚ) < 2 ^ (num.log2 + 1) := by exact_mod_cast Nat.lt_log2_self
  have denLow : (2 : ℚ) ^ den.log2 ≤ den := by exact_mod_cast Nat.log2_self_le denPos.ne'
  have denHigh : (den : ℚ) < 2 ^ (den.log2 + 1) := by exact_mod_cast Nat.lt_log2_self
  have low : (2 : ℚ) ^ ((num.log2 : ℤ) - den.log2 - 1) ≤ num / den := by
    calc (2 : ℚ) ^ ((num.log2 : ℤ) - den.log2 - 1) = 2 ^ num.log2 / 2 ^ (den.log2 + 1) := by
          rw [← zpow_natCast, ← zpow_natCast, ← zpow_sub₀ two_ne_zero]
          congr 1
          push_cast
          ring
      _ ≤ num / den := div_le_div₀ (by positivity) numLow cast denHigh.le
  have high : (num : ℚ) / den < 2 ^ ((num.log2 : ℤ) - den.log2 + 1) := by
    calc (num : ℚ) / den < 2 ^ (num.log2 + 1) / 2 ^ den.log2 :=
          div_lt_div₀ numHigh denLow (by positivity) (by positivity)
      _ = 2 ^ ((num.log2 : ℤ) - den.log2 + 1) := by
          rw [← zpow_natCast, ← zpow_natCast, ← zpow_sub₀ two_ne_zero]
          congr 1
          push_cast
          ring
  have compared : den <<< ((num.log2 : ℤ) - den.log2).toNat ≤
      num <<< (-((num.log2 : ℤ) - den.log2)).toNat ↔
        (2 : ℚ) ^ ((num.log2 : ℤ) - den.log2) ≤ num / den := by
    rw [two_zpow_eq, div_le_div_iff₀ (by positivity) cast, Nat.shiftLeft_eq, Nat.shiftLeft_eq,
      mul_comm den]
    exact_mod_cast Iff.rfl
  unfold quotientLog2
  dsimp only
  split_ifs with least
  · exact ⟨compared.mp least, high⟩
  · rw [compared, not_le] at least
    exact ⟨low, by rwa [sub_add_cancel]⟩

theorem Precise.scaled {y : ℚ} (precise : Precise y) (k : ℤ) :
    (∃ n : ℤ, y * 2 ^ k = n) ∨ y * 2 ^ k < 2 ^ 52 := by
  obtain ⟨significand, exponent, small, rfl⟩ := precise
  rw [mul_assoc, ← zpow_add₀ two_ne_zero]
  rcases le_or_gt 0 (exponent + k) with whole | fraction
  · obtain ⟨n, same⟩ := Int.eq_ofNat_of_zero_le whole
    left
    refine ⟨(significand * 2 ^ n : ℕ), ?_⟩
    rw [same]
    push_cast
    rw [zpow_natCast]
  · right
    have bound : (significand : ℚ) < 2 ^ 53 := by exact_mod_cast small
    have power : (2 : ℚ) ^ (exponent + k) ≤ 2 ^ (-1 : ℤ) :=
      zpow_le_zpow_right₀ one_le_two (by omega)
    calc (significand : ℚ) * 2 ^ (exponent + k) ≤ significand * 2 ^ (-1 : ℤ) := by gcongr
      _ < 2 ^ 53 * 2 ^ (-1 : ℤ) := by gcongr
      _ = 2 ^ 52 := by norm_num

/-- A binary fraction nearest to a number: no precise number is nearer, and of two equally near it is
the one whose significand, written with fifty-three bits, is even. -/
structure Binary.IsNearest (exact : ℚ) (x : Binary) : Prop where
  precise : Precise x.value
  nearest : ∀ y, Precise y → |x.value - exact| ≤ |y - exact|
  even : ∀ y, Precise y → |y - exact| = |x.value - exact| → y ≠ x.value →
    Even x.significand ∧ 2 ^ 52 ≤ x.significand ∧ x.significand ≤ 2 ^ 53

/-- On the scale of the places of a binary fraction a number has fifty-three bits before the point, and
the significand is the nearest whole number. -/
structure Binary.IsScaled (exact : ℚ) (x : Binary) : Prop where
  least : 2 ^ 52 ≤ exact * 2 ^ x.places
  most : exact * 2 ^ x.places < 2 ^ 53
  rounded : IsRounded (exact * 2 ^ x.places) x.significand

/-- The significand has fifty-three bits too, or is the next power of two. -/
theorem Binary.IsScaled.bits {x : Binary} {exact : ℚ} (scaled : x.IsScaled exact) :
    2 ^ 52 ≤ x.significand ∧ x.significand ≤ 2 ^ 53 := by
  have fromBelow := scaled.rounded.nearest (2 ^ 52)
  have fromAbove := scaled.rounded.nearest (2 ^ 53)
  rw [Int.cast_pow, Int.cast_ofNat, abs_of_nonpos (sub_nonpos.mpr scaled.least)] at fromBelow
  rw [Int.cast_pow, Int.cast_ofNat, abs_of_nonneg (sub_nonneg.mpr scaled.most.le)] at fromAbove
  have low : (2 ^ 52 : ℚ) ≤ x.significand := by
    linarith [neg_abs_le ((x.significand : ℚ) - exact * 2 ^ x.places)]
  have high : (x.significand : ℚ) ≤ 2 ^ 53 := by
    linarith [le_abs_self ((x.significand : ℚ) - exact * 2 ^ x.places)]
  exact ⟨by exact_mod_cast low, by exact_mod_cast high⟩

/-- A binary fraction that is nearest on the scale of its places is nearest among all precise numbers. -/
theorem Binary.IsScaled.isNearest {x : Binary} {exact : ℚ} (scaled : x.IsScaled exact) :
    x.IsNearest exact := by
  have unit : (0 : ℚ) < 2 ^ x.places := by positivity
  have valueScaled : x.value * 2 ^ x.places = x.significand := by
    unfold value
    rw [mul_assoc, ← zpow_add₀ two_ne_zero, neg_add_cancel, zpow_zero, mul_one]
  have distance : ∀ y : ℚ, |y - exact| * 2 ^ x.places = |y * 2 ^ x.places - exact * 2 ^ x.places| := by
    intro y
    rw [← sub_mul, abs_mul, abs_of_pos unit]
  obtain ⟨low, high⟩ := scaled.bits
  -- A precise number that is no whole number on this scale lies below the scale's first number of
  -- fifty-three bits, and that one is nearer already.
  have beyond : ∀ y : ℚ, y * 2 ^ x.places < 2 ^ 52 → |x.value - exact| < |y - exact| := by
    intro y below
    have least := scaled.least
    refine lt_of_mul_lt_mul_right ?_ unit.le
    rw [distance, distance, valueScaled]
    calc |(x.significand : ℚ) - exact * 2 ^ x.places| ≤ |((2 ^ 52 : ℤ) : ℚ) - exact * 2 ^ x.places| :=
          scaled.rounded.nearest (2 ^ 52)
      _ < |y * 2 ^ x.places - exact * 2 ^ x.places| := by
          push_cast
          rw [abs_of_nonpos (by linarith), abs_of_nonpos (by linarith)]
          linarith
  refine ⟨?_, fun y precise => ?_, fun y precise tie differ => ?_⟩
  · exact precise_mul_zpow high (-x.places)
  · rcases precise.scaled x.places with ⟨n, whole⟩ | below
    · refine le_of_mul_le_mul_right ?_ unit
      rw [distance, distance, valueScaled, whole]
      exact scaled.rounded.nearest n
    · exact (beyond y below).le
  · rcases precise.scaled x.places with ⟨n, whole⟩ | below
    · refine ⟨scaled.rounded.even n ?_ ?_, low, high⟩
      · rw [← whole, ← valueScaled, ← distance, ← distance, tie]
      · rintro rfl
        refine differ (mul_right_cancel₀ unit.ne' ?_)
        rw [whole, valueScaled, Int.cast_natCast]
    · exact absurd tie (beyond y below).ne'

/-- The places of a quotient are so many that it has fifty-three bits before the point there. -/
theorem nearestQuotient_isScaled (numPos : 0 < num) (denPos : 0 < den) :
    (nearestQuotient num den).places = 52 - quotientLog2 num den ∧
      (nearestQuotient num den).IsScaled (num / den) := by
  obtain ⟨least, most⟩ := quotientLog2_spec numPos denPos
  have form : nearestQuotient num den = ⟨roundHalfEven (num <<< (52 - quotientLog2 num den).toNat)
      (den <<< (-(52 - quotientLog2 num den)).toNat), 52 - quotientLog2 num den⟩ := by
    unfold nearestQuotient
    rw [if_neg numPos.ne']
  have shifted : 0 < den <<< (-(52 - quotientLog2 num den)).toNat := by
    rw [Nat.shiftLeft_eq]
    positivity
  rw [form]
  refine ⟨rfl, ?_, ?_, ?_⟩
  · calc (2 : ℚ) ^ 52 = 2 ^ quotientLog2 num den * 2 ^ (52 - quotientLog2 num den) := by
          rw [← zpow_add₀ two_ne_zero, add_sub_cancel]
          norm_num
      _ ≤ num / den * 2 ^ (52 - quotientLog2 num den) := by gcongr
  · calc (num : ℚ) / den * 2 ^ (52 - quotientLog2 num den)
        < 2 ^ (quotientLog2 num den + 1) * 2 ^ (52 - quotientLog2 num den) := by gcongr
      _ = 2 ^ 53 := by
          rw [← zpow_add₀ two_ne_zero]
          ring_nf
          norm_num
  · rw [← cast_shiftLeft_div]
    exact roundHalfEven_isRounded _ shifted

/-- **The quotient is the nearest precise number.** -/
theorem nearestQuotient_isNearest (num : ℕ) (positive : 0 < den) :
    (nearestQuotient num den).IsNearest (num / den) := by
  rcases num.eq_zero_or_pos with rfl | numPos
  · have value : (nearestQuotient 0 den).value = 0 := by simp [nearestQuotient, Binary.value]
    refine ⟨?_, fun y _ => ?_, fun y _ tie differ => ?_⟩
    · rw [value]
      exact_mod_cast precise_natCast (Nat.zero_le _)
    · simp [value]
    · simp only [value, Nat.cast_zero, zero_div, sub_zero, abs_zero, abs_eq_zero] at tie differ
      exact absurd tie differ
  · exact (nearestQuotient_isScaled numPos positive).2.isNearest

/-! ### The whole part of a quotient -/

/-- Rounding does not pass a precise number from below. -/
theorem Binary.IsNearest.le_value {x : Binary} {exact y : ℚ} (near : x.IsNearest exact)
    (precise : Precise y) (below : y ≤ exact) : y ≤ x.value := by
  by_contra less
  have closer := near.nearest y precise
  rw [not_le] at less
  rw [abs_of_nonpos (by linarith), abs_of_nonpos (by linarith)] at closer
  linarith

/-- Rounding does not pass a precise number from above. -/
theorem Binary.IsNearest.value_le {x : Binary} {exact y : ℚ} (near : x.IsNearest exact)
    (precise : Precise y) (above : exact ≤ y) : x.value ≤ y := by
  by_contra greater
  have closer := near.nearest y precise
  rw [not_le] at greater
  rw [abs_of_nonneg (by linarith), abs_of_nonneg (by linarith)] at closer
  linarith

/-- **Rounding keeps the order.** -/
theorem Binary.IsNearest.mono {x y : Binary} {first second : ℚ} (near : x.IsNearest first)
    (other : y.IsNearest second) (ordered : first < second) : x.value ≤ y.value := by
  by_cases below : x.value ≤ second
  · exact other.le_value near.precise below
  by_cases before : first ≤ y.value
  · exact near.value_le other.precise before
  -- Otherwise the middle of the two doubles is not behind the one number, nor before the other.
  rw [not_le] at below before
  have closer := near.nearest _ other.precise
  have otherCloser := other.nearest _ near.precise
  rw [abs_of_nonneg (by linarith), abs_of_nonpos (by linarith)] at closer
  rw [abs_of_nonpos (by linarith), abs_of_nonneg (by linarith)] at otherCloser
  linarith

/-- The step between neighbouring precise numbers below a power of two bounds the error. -/
theorem Binary.IsNearest.error_le {x : Binary} {exact : ℚ} (near : x.IsNearest exact)
    (nonneg : 0 ≤ exact) {bits : ℕ} (below : exact < 2 ^ bits) :
    |x.value - exact| ≤ 2 ^ bits / 2 ^ 54 := by
  have unit : (0 : ℚ) < 2 ^ bits / 2 ^ 53 := by positivity
  -- The number of the scale that is nearest to the exact one, with the half rounded up.
  obtain ⟨n, low, high⟩ : ∃ n : ℕ, (n : ℚ) ≤ exact / (2 ^ bits / 2 ^ 53) + 1 / 2 ∧
      exact / (2 ^ bits / 2 ^ 53) + 1 / 2 < n + 1 :=
    ⟨_, Nat.floor_le (by positivity), Nat.lt_floor_add_one _⟩
  have scaled : exact / (2 ^ bits / 2 ^ 53) < 2 ^ 53 := by
    rw [div_lt_iff₀ unit]
    calc exact < 2 ^ bits := below
      _ = 2 ^ 53 * (2 ^ bits / 2 ^ 53) := by ring
  have small : n ≤ 2 ^ 53 := by
    have cast : (n : ℚ) < 2 ^ 53 + 1 := by linarith
    exact Nat.lt_succ_iff.mp (by exact_mod_cast cast)
  have precise : Precise (n * (2 ^ bits / 2 ^ 53)) := by
    have form := precise_mul_zpow small (bits - 53)
    rwa [zpow_sub₀ two_ne_zero, zpow_natCast] at form
  have apart : |n - exact / (2 ^ bits / 2 ^ 53)| ≤ 1 / 2 := by
    rw [abs_le]
    constructor <;> linarith
  calc |x.value - exact| ≤ |n * (2 ^ bits / 2 ^ 53) - exact| := near.nearest _ precise
    _ = |n - exact / (2 ^ bits / 2 ^ 53)| * (2 ^ bits / 2 ^ 53) := by
        rw [← abs_of_pos unit, ← abs_mul, abs_of_pos unit, sub_mul, div_mul_cancel₀ _ unit.ne']
    _ ≤ 1 / 2 * (2 ^ bits / 2 ^ 53) := by gcongr
    _ = 2 ^ bits / 2 ^ 54 := by ring

/-- **A whole number that the quotient does not exceed is not exceeded by the rounded one.** -/
theorem floor_nearestQuotient_le {limit : ℕ} (positive : 0 < den) (small : limit ≤ 2 ^ 53)
    (above : num ≤ limit * den) : (nearestQuotient num den).floor ≤ limit := by
  have cast : (0 : ℚ) < den := by exact_mod_cast positive
  have exact : (num : ℚ) / den ≤ limit := by
    rw [div_le_iff₀ cast]
    exact_mod_cast above
  rw [Binary.floor_eq]
  exact Nat.floor_le_of_le ((nearestQuotient_isNearest num positive).value_le
    (precise_natCast small) exact)

/-- **A whole number that the quotient reaches is reached by the rounded one.** -/
theorem le_floor_nearestQuotient {reached : ℕ} (positive : 0 < den) (small : reached ≤ 2 ^ 53)
    (below : reached * den ≤ num) : reached ≤ (nearestQuotient num den).floor := by
  have cast : (0 : ℚ) < den := by exact_mod_cast positive
  have exact : (reached : ℚ) ≤ num / den := by
    rw [le_div_iff₀ cast]
    exact_mod_cast below
  rw [Binary.floor_eq]
  exact Nat.le_floor ((nearestQuotient_isNearest num positive).le_value
    (precise_natCast small) exact)

/-- **The larger number has the larger quotient.** -/
theorem floor_nearestQuotient_mono {other : ℕ} (positive : 0 < den) (ordered : num ≤ other) :
    (nearestQuotient num den).floor ≤ (nearestQuotient other den).floor := by
  rcases ordered.lt_or_eq with less | rfl
  · have cast : (0 : ℚ) < den := by exact_mod_cast positive
    have exact : (num : ℚ) / den < other / den := by
      gcongr
    rw [Binary.floor_eq, Binary.floor_eq]
    exact Nat.floor_mono ((nearestQuotient_isNearest num positive).mono
      (nearestQuotient_isNearest other positive) exact)
  · exact le_rfl

/-- **While the numbers are small, the whole part is that of the exact quotient.** -/
theorem floor_nearestQuotient_eq_div (bits : ℕ) (positive : 0 < den)
    (small : num < 2 ^ bits * den) (fine : den * 2 ^ bits < 2 ^ 54) :
    (nearestQuotient num den).floor = num / den := by
  have cast : (0 : ℚ) < den := by exact_mod_cast positive
  have below : (num : ℚ) / den < 2 ^ bits := by
    rw [div_lt_iff₀ cast]
    exact_mod_cast small
  have fewBits : bits < 54 := by
    rw [← Nat.pow_lt_pow_iff_right one_lt_two]
    exact (Nat.le_mul_of_pos_left _ positive).trans_lt fine
  have error := (nearestQuotient_isNearest num positive).error_le (by positivity) below
  have errorSmall : (2 : ℚ) ^ bits / 2 ^ 54 < 1 / den := by
    rw [div_lt_div_iff₀ (by positivity) cast, one_mul, mul_comm]
    exact_mod_cast fine
  have next : (num : ℚ) / den + 1 / den ≤ (num / den : ℕ) + 1 := by
    rw [← add_div, div_le_iff₀ cast]
    exact_mod_cast Nat.succ_le_of_lt (Nat.lt_mul_of_div_lt (Nat.lt_succ_self (num / den)) positive)
  apply le_antisymm
  · rw [Binary.floor_eq, ← Nat.lt_succ_iff, Nat.floor_lt' (Nat.succ_ne_zero _), Nat.cast_succ]
    linarith [le_abs_self ((nearestQuotient num den).value - num / den)]
  · refine le_floor_nearestQuotient positive ?_ (Nat.div_mul_le_self num den)
    calc num / den ≤ 2 ^ bits := (Nat.div_lt_of_lt_mul (by rwa [mul_comm])).le
      _ ≤ 2 ^ 53 := Nat.pow_le_pow_right two_pos (by omega)

/-! ### Doubles with a sign -/

/-- The numbers that double precision holds. -/
def IsDouble (x : ℚ) : Prop :=
  ∃ significand exponent : ℤ, |significand| < 2 ^ 53 ∧ -1074 ≤ exponent ∧ exponent ≤ 971 ∧
    x = significand * 2 ^ exponent

/-- The double nearest to a number; of two equally near, the one whose significand, written with
fifty-three bits, is even. -/
structure NearestDouble (exact x : ℚ) : Prop where
  isDouble : IsDouble x
  nearest : ∀ y, IsDouble y → |x - exact| ≤ |y - exact|
  even : ∀ y, IsDouble y → |y - exact| = |x - exact| → y ≠ x →
    ∃ significand exponent : ℤ, Even significand ∧ 2 ^ 52 ≤ |significand| ∧
      |significand| < 2 ^ 53 ∧ x = significand * 2 ^ exponent

theorem IsDouble.precise {x : ℚ} (double : IsDouble x) : Precise |x| := by
  obtain ⟨significand, exponent, small, -, -, rfl⟩ := double
  refine ⟨significand.natAbs, exponent, by rw [Int.abs_eq_natAbs] at small; omega, ?_⟩
  rw [abs_mul, abs_of_pos (by positivity : (0 : ℚ) < 2 ^ exponent), Nat.cast_natAbs, Int.cast_abs]

theorem nearestDouble_zero : NearestDouble 0 0 where
  isDouble := ⟨0, 0, by norm_num, by norm_num, by norm_num, by simp⟩
  nearest y _ := by simp
  even y _ tie differ := by
    simp only [sub_zero, abs_zero, abs_eq_zero] at tie
    exact absurd tie differ

theorem Binary.value_nonneg (x : Binary) : 0 ≤ x.value := by
  unfold value
  positivity

/-- A significand that was rounded up to the next power of two is written with one bit less. -/
theorem exists_significand {whole : ℕ} (low : 2 ^ 52 ≤ whole) (high : whole ≤ 2 ^ 53)
    (exponent : ℤ) :
    ∃ (significand : ℕ) (adjusted : ℤ), 2 ^ 52 ≤ significand ∧ significand < 2 ^ 53 ∧
      (Even whole → Even significand) ∧ exponent ≤ adjusted ∧ adjusted ≤ exponent + 1 ∧
      (whole : ℚ) * 2 ^ exponent = significand * 2 ^ adjusted := by
  rcases high.lt_or_eq with less | rfl
  · exact ⟨whole, exponent, low, less, id, le_rfl, by omega, rfl⟩
  · refine ⟨2 ^ 52, exponent + 1, le_rfl, by norm_num, fun _ => by decide, by omega, le_rfl, ?_⟩
    rw [zpow_add₀ two_ne_zero]
    push_cast
    ring

theorem eq_of_abs_eq {x y exact : ℚ} (nonzero : exact ≠ 0) (same : |y| = |x|)
    (tie : |y - exact| = |x - exact|) : y = x := by
  rcases abs_eq_abs.mp same with rfl | rfl
  · rfl
  · have squares : (-x - exact) ^ 2 = (x - exact) ^ 2 := by rw [← sq_abs, tie, sq_abs]
    have product : x * exact = 0 := by linear_combination 1 / 4 * squares
    rw [(mul_eq_zero.mp product).resolve_right nonzero, neg_zero]

/-- A double is nearest to a number on its side of zero if it is so without the signs. -/
theorem nearestDouble_of_abs {exact x : ℚ} {magnitude : Binary} (nonzero : exact ≠ 0)
    (near : magnitude.IsNearest |exact|) (size : |x| = magnitude.value)
    (side : |x - exact| = |(|x| - |exact|)|) (double : IsDouble x)
    (even : Even magnitude.significand → ∃ significand exponent : ℤ, Even significand ∧
      2 ^ 52 ≤ |significand| ∧ |significand| < 2 ^ 53 ∧ x = significand * 2 ^ exponent) :
    NearestDouble exact x := by
  have nearest : ∀ y, IsDouble y → |x - exact| ≤ |(|y| - |exact|)| := by
    intro y other
    rw [side, size]
    exact near.nearest _ other.precise
  refine ⟨double, fun y other => (nearest y other).trans (abs_abs_sub_abs_le y exact),
    fun y other tie differ => even (near.even _ other.precise ?_ ?_).1⟩
  · rw [← size, ← side]
    exact le_antisymm ((abs_abs_sub_abs_le y exact).trans tie.le) (nearest y other)
  · rw [← size]
    exact fun same => differ (eq_of_abs_eq nonzero same tie)

/-- **A quotient that is neither too large nor too small is the nearest double**, with either sign. -/
theorem nearestDouble_nearestQuotient (numPos : 0 < num) (denPos : 0 < den)
    (large : (2 : ℚ) ^ (-1022 : ℤ) ≤ num / den) (small : (num : ℚ) / den < 2 ^ (1023 : ℤ))
    {sign : ℤ} (unit : |sign| = 1) :
    NearestDouble (sign * (num / den)) (sign * (nearestQuotient num den).value) := by
  obtain ⟨place, scaled⟩ := nearestQuotient_isScaled numPos denPos
  obtain ⟨low, high⟩ := scaled.bits
  obtain ⟨significand, exponent, bits, fits, even, lowered, raised, same⟩ :=
    exists_significand low high (-(nearestQuotient num den).places)
  obtain ⟨before, behind⟩ := quotientLog2_spec numPos denPos
  have atLeast : -1022 < quotientLog2 num den + 1 :=
    (zpow_lt_zpow_iff_right₀ one_lt_two).mp (large.trans_lt behind)
  have atMost : quotientLog2 num den < 1023 :=
    (zpow_lt_zpow_iff_right₀ one_lt_two).mp (before.trans_lt small)
  have signed : ∀ y : ℚ, |(sign : ℚ) * y| = |y| := by
    intro y
    have unitCast : |(sign : ℚ)| = 1 := by exact_mod_cast unit
    rw [abs_mul, unitCast, one_mul]
  have signedSize : |sign * (significand : ℤ)| = significand := by
    rw [abs_mul, unit, one_mul, Nat.abs_cast]
  have exactPos : (0 : ℚ) < num / den := by positivity
  have valuePos : 0 < (nearestQuotient num den).value := by
    unfold Binary.value
    positivity
  have form : (sign : ℚ) * (nearestQuotient num den).value =
      ((sign * significand : ℤ) : ℚ) * 2 ^ exponent := by
    rw [Binary.value, same]
    push_cast
    ring
  refine nearestDouble_of_abs ?_ ?_ (by rw [signed, abs_of_pos valuePos]) ?_ ?_ ?_
  · exact abs_pos.mp (by rwa [signed, abs_of_pos exactPos])
  · rw [signed, abs_of_pos exactPos]
    exact nearestQuotient_isNearest num denPos
  · rw [← mul_sub, signed, signed, signed, abs_of_pos valuePos, abs_of_pos exactPos]
  · exact ⟨sign * significand, exponent, by omega, by omega, by omega, form⟩
  · intro evenWhole
    refine ⟨sign * significand, exponent, ?_, by omega, by omega, form⟩
    exact ((Int.even_coe_nat _).mpr (even evenWhole)).mul_left _

end SignIn.Number

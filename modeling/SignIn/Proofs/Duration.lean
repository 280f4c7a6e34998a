/-
**A lifetime in whole seconds is its truncation, up to a bound.**

The seconds of a duration are divided to the nearest double first, and the fraction is cut off then.
Rounding may lift the last fraction of a second to the next whole one, but only where the doubles lie
more than two microseconds apart:

* `wholeSeconds_eq_truncate`: the whole seconds are the nearest double without its fraction;
* `wholeSeconds_eq_tdiv`: below two to the thirty-fourth seconds nothing is lifted;
* `wholeSeconds_cases`: beyond, at most to the next second away from zero;
* `wholeSeconds_of_neg`, `wholeSeconds_mono`: both signs are treated alike, and the order is kept;
* `maxAgeSeconds_truncates`: all of it for the lifetime of a cookie, with a lifetime in the first second
  beyond the bound that is lifted.
-/

import SignIn.Cookie.Policy
import SignIn.Proofs.Number.Quotient

namespace SignIn

open Number

/-- A number without its fraction. -/
def truncate (x : ℚ) : ℤ :=
  if x < 0 then ⌈x⌉ else ⌊x⌋

theorem truncate_sign_mul {x : ℚ} (nonneg : 0 ≤ x) (value : ℤ) :
    truncate (value.sign * x) = value.sign * ⌊x⌋₊ := by
  have floor : ((⌊x⌋₊ : ℕ) : ℤ) = ⌊x⌋ := Int.natCast_floor_eq_floor nonneg
  rw [floor]
  unfold truncate
  rcases lt_trichotomy value 0 with negative | rfl | positive
  · rw [Int.sign_eq_neg_one_of_neg negative]
    split_ifs with below
    · simp [Int.ceil_neg]
    · have zero : x = 0 := by
        push_cast at below
        linarith
      simp [zero]
  · simp
  · rw [Int.sign_eq_one_of_pos positive, Int.cast_one, one_mul, one_mul, if_neg (not_lt.mpr nonneg)]

namespace Duration

variable {duration other : Duration}

/-! ### The size of a duration -/

/-- The seconds of a duration without its sign: a double cut off behind the point. -/
theorem wholeSeconds_eq (duration : Duration) :
    duration.wholeSeconds =
      duration.micros.sign * (nearestQuotient duration.micros.natAbs microsPerSecond).floor := by
  unfold wholeSeconds
  rcases lt_trichotomy duration.micros 0 with negative | zero | positive
  · simp [negative, Int.sign_eq_neg_one_of_neg negative]
  · simp only [zero]
    decide
  · simp [positive.not_gt, Int.sign_eq_one_of_pos positive]

theorem natAbs_micros_lt (duration : Duration) :
    duration.micros.natAbs < 86400000000000 * microsPerSecond := by
  have least := duration.min_le
  have most := duration.le_max
  unfold minMicros at least
  unfold maxMicros at most
  unfold microsPerSecond
  omega

theorem tdiv_eq_sign_mul (value : ℤ) (den : ℕ) :
    value.tdiv den = value.sign * (value.natAbs / den : ℕ) := by
  obtain ⟨size, rfl | rfl⟩ := Int.eq_nat_or_neg value
  · rcases size.eq_zero_or_pos with rfl | positive
    · simp
    · rw [Int.sign_natCast_of_ne_zero positive.ne', one_mul]
      rfl
  · rcases size.eq_zero_or_pos with rfl | positive
    · simp
    · rw [Int.neg_tdiv, Int.sign_neg, Int.sign_natCast_of_ne_zero positive.ne', Int.natAbs_neg,
        neg_one_mul]
      rfl

/-! ### Whole seconds -/

/-- **The whole seconds are those of the nearest double.** -/
theorem wholeSeconds_eq_truncate (duration : Duration) :
    ∃ x, NearestDouble (duration.micros / 10 ^ 6) x ∧ duration.wholeSeconds = truncate x := by
  have exact : (duration.micros : ℚ) / 10 ^ 6 =
      duration.micros.sign * (duration.micros.natAbs / microsPerSecond) := by
    have signed : (duration.micros.sign : ℚ) * duration.micros.natAbs = duration.micros := by
      rw [← Int.cast_natCast, ← Int.cast_mul, Int.sign_mul_natAbs]
    rw [← mul_div_assoc, signed]
    norm_num [microsPerSecond]
  refine ⟨duration.micros.sign * (nearestQuotient duration.micros.natAbs microsPerSecond).value, ?_, ?_⟩
  · rw [exact]
    rcases eq_or_ne duration.micros 0 with zero | nonzero
    · rw [zero, Int.sign_zero, Int.cast_zero, zero_mul, zero_mul]
      exact nearestDouble_zero
    · have numPos : 0 < duration.micros.natAbs := Int.natAbs_pos.mpr nonzero
      have least : (1 : ℚ) ≤ duration.micros.natAbs := by exact_mod_cast numPos
      have most : (duration.micros.natAbs : ℚ) < 86400000000000 * microsPerSecond := by
        exact_mod_cast duration.natAbs_micros_lt
      refine nearestDouble_nearestQuotient numPos (by decide) ?_ ?_ (Int.abs_sign_of_ne_zero nonzero)
      · calc (2 : ℚ) ^ (-1022 : ℤ) ≤ 2 ^ (-20 : ℤ) := zpow_le_zpow_right₀ one_le_two (by decide)
          _ ≤ 1 / microsPerSecond := by norm_num [microsPerSecond]
          _ ≤ duration.micros.natAbs / microsPerSecond := by gcongr
      · calc (duration.micros.natAbs : ℚ) / microsPerSecond < 86400000000000 := by
              rwa [div_lt_iff₀ (by norm_num [microsPerSecond])]
          _ ≤ 2 ^ (47 : ℤ) := by norm_num
          _ ≤ 2 ^ (1023 : ℤ) := zpow_le_zpow_right₀ one_le_two (by decide)
  · rw [truncate_sign_mul (Binary.value_nonneg _), ← Binary.floor_eq, wholeSeconds_eq]

/-- **A short duration is cut off at its last whole second.** -/
theorem wholeSeconds_eq_tdiv (short : |duration.micros| < 2 ^ 34 * 10 ^ 6) :
    duration.wholeSeconds = duration.micros.tdiv (10 ^ 6) := by
  have exact : (nearestQuotient duration.micros.natAbs microsPerSecond).floor =
      duration.micros.natAbs / microsPerSecond := by
    refine floor_nearestQuotient_eq_div 34 (by decide) ?_ (by decide)
    rw [Int.abs_eq_natAbs] at short
    unfold microsPerSecond
    omega
  rw [wholeSeconds_eq, exact]
  exact (tdiv_eq_sign_mul duration.micros microsPerSecond).symm

/-- **A duration is cut off at its last whole second, or lifted to the next one.** -/
theorem wholeSeconds_cases (duration : Duration) :
    duration.wholeSeconds = duration.micros.tdiv (10 ^ 6) ∨
      duration.wholeSeconds = duration.micros.tdiv (10 ^ 6) + duration.micros.sign := by
  have bound := duration.natAbs_micros_lt
  have reached : duration.micros.natAbs / microsPerSecond ≤
      (nearestQuotient duration.micros.natAbs microsPerSecond).floor :=
    le_floor_nearestQuotient (by decide) (by unfold microsPerSecond at *; omega) (Nat.div_mul_le_self _ _)
  have passed : (nearestQuotient duration.micros.natAbs microsPerSecond).floor ≤
      duration.micros.natAbs / microsPerSecond + 1 :=
    floor_nearestQuotient_le (by decide) (by unfold microsPerSecond at *; omega)
      (by unfold microsPerSecond; omega)
  have form : duration.micros.tdiv (10 ^ 6) = _ := tdiv_eq_sign_mul duration.micros microsPerSecond
  rw [wholeSeconds_eq, form]
  rcases reached.eq_or_lt with same | less
  · left
    rw [same]
  · right
    rw [le_antisymm passed less]
    push_cast
    ring

/-- **Both signs are treated alike.** -/
theorem wholeSeconds_of_neg (opposite : other.micros = -duration.micros) :
    other.wholeSeconds = -duration.wholeSeconds := by
  rw [wholeSeconds_eq, wholeSeconds_eq, opposite, Int.sign_neg, Int.natAbs_neg, neg_mul]

/-- **The longer duration has no fewer seconds.** -/
theorem wholeSeconds_mono (ordered : duration.micros ≤ other.micros) :
    duration.wholeSeconds ≤ other.wholeSeconds := by
  have floor_mono : ∀ {short long : ℕ}, short ≤ long →
      (nearestQuotient short microsPerSecond).floor ≤ (nearestQuotient long microsPerSecond).floor :=
    floor_nearestQuotient_mono (by decide)
  rw [wholeSeconds_eq, wholeSeconds_eq]
  rcases lt_trichotomy duration.micros 0 with negative | zero | positive
  · rcases lt_or_ge other.micros 0 with alsoNegative | nonneg
    · have sizes := floor_mono (by omega : other.micros.natAbs ≤ duration.micros.natAbs)
      rw [Int.sign_eq_neg_one_of_neg negative, Int.sign_eq_neg_one_of_neg alsoNegative]
      omega
    · calc duration.micros.sign * _ ≤ 0 :=
            mul_nonpos_of_nonpos_of_nonneg (Int.sign_nonpos_iff.mpr negative.le) (Int.natCast_nonneg _)
        _ ≤ other.micros.sign * _ :=
            mul_nonneg (Int.sign_nonneg_iff.mpr nonneg) (Int.natCast_nonneg _)
  · rw [zero, Int.sign_zero, zero_mul]
    exact mul_nonneg (Int.sign_nonneg_iff.mpr (zero ▸ ordered)) (Int.natCast_nonneg _)
  · have sizes := floor_mono (by omega : duration.micros.natAbs ≤ other.micros.natAbs)
    rw [Int.sign_eq_one_of_pos positive, Int.sign_eq_one_of_pos (positive.trans_le ordered)]
    omega

/-- The first doubles that lie four microseconds apart lift the last microsecond. -/
theorem wholeSeconds_of_lifted (lifted : duration.micros = 2 ^ 34 * 10 ^ 6 + 999999) :
    duration.wholeSeconds = 2 ^ 34 + 1 := by
  unfold wholeSeconds
  rw [lifted]
  decide

end Duration

/-! ### The lifetime of a cookie -/

/-- **A cookie's lifetime in seconds is its truncation up to a sharp bound.** It is the nearest double
without its fraction. Below two to the thirty-fourth seconds that is the exact truncation, beyond it is
at most the next second away from zero, and there it is, already, in the first second beyond. An
opposite lifetime has the opposite seconds, and a longer one has no fewer. -/
theorem Cookie.maxAgeSeconds_truncates (cookie other : Cookie) :
    (∃ x, NearestDouble (cookie.maxAge.micros / 10 ^ 6) x ∧ cookie.maxAgeSeconds = truncate x) ∧
      (|cookie.maxAge.micros| < 2 ^ 34 * 10 ^ 6 →
        cookie.maxAgeSeconds = cookie.maxAge.micros.tdiv (10 ^ 6)) ∧
      (cookie.maxAgeSeconds = cookie.maxAge.micros.tdiv (10 ^ 6) ∨
        cookie.maxAgeSeconds = cookie.maxAge.micros.tdiv (10 ^ 6) + cookie.maxAge.micros.sign) ∧
      (other.maxAge.micros = -cookie.maxAge.micros →
        other.maxAgeSeconds = -cookie.maxAgeSeconds) ∧
      (cookie.maxAge.micros ≤ other.maxAge.micros → cookie.maxAgeSeconds ≤ other.maxAgeSeconds) ∧
      (cookie.maxAge.micros = 2 ^ 34 * 10 ^ 6 + 999999 → cookie.maxAgeSeconds = 2 ^ 34 + 1) :=
  ⟨cookie.maxAge.wholeSeconds_eq_truncate, Duration.wholeSeconds_eq_tdiv,
    cookie.maxAge.wholeSeconds_cases, Duration.wholeSeconds_of_neg, Duration.wholeSeconds_mono,
    Duration.wholeSeconds_of_lifted⟩

/-- On either side of the bound: one microsecond is cut off before it, and adds a second beyond, for
lifetimes of either sign. -/
theorem last_microsecond_lifted :
    let policy (ttl : Duration) : Policy := ⟨false, ttl, ttl, ttl⟩
    let short := (policy ⟨2 ^ 34 * 10 ^ 6 - 1, by decide, by decide⟩).authToken "t"
    let long := (policy ⟨2 ^ 34 * 10 ^ 6 + 999999, by decide, by decide⟩).authToken "t"
    let opposite := (policy ⟨-(2 ^ 34 * 10 ^ 6 + 999999), by decide, by decide⟩).authToken "t"
    short.maxAgeSeconds = 2 ^ 34 - 1 ∧ long.maxAgeSeconds = 2 ^ 34 + 1 ∧
      short.maxAgeSeconds ≤ long.maxAgeSeconds ∧ opposite.maxAgeSeconds = -(2 ^ 34 + 1) := by
  intro policy short long opposite
  obtain ⟨-, truncated, -, -, ordered, -⟩ := Cookie.maxAgeSeconds_truncates short long
  obtain ⟨-, -, -, mirrored, -, lifted⟩ := Cookie.maxAgeSeconds_truncates long opposite
  refine ⟨truncated (by decide), lifted rfl, ordered (by decide), ?_⟩
  rw [mirrored rfl, lifted rfl]

end SignIn

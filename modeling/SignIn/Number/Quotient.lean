/-
**Quotients to fifty-three significant bits.**

Dividing two natural numbers in double precision gives the double nearest to the exact quotient,
and of two equally near the one with an even significand. Everything here is exact integer
arithmetic: a double is its significand together with the number of binary places after the
point.
-/

namespace SignIn.Number

/-- The natural number nearest to `num / den`; of two equally near, the even one. -/
def roundHalfEven (num den : Nat) : Nat :=
  let below := num / den
  let rest := num % den
  if 2 * rest < den then below
  else if den < 2 * rest then below + 1
  else if below % 2 == 0 then below
  else below + 1

/-- The exponent of the largest power of two that is at most `num / den`, for positive numbers. -/
def quotientLog2 (num den : Nat) : Int :=
  let estimate : Int := (num.log2 : Int) - den.log2
  if den <<< estimate.toNat ≤ num <<< (-estimate).toNat then estimate else estimate - 1

/-- A nonnegative binary fraction: a significand and how many of its binary digits stand after
the point (before it there are more digits when the number of places is negative). -/
structure Binary where
  significand : Nat
  places : Int
deriving DecidableEq

/-- The double nearest to `num / den`. -/
def nearestQuotient (num den : Nat) : Binary :=
  if num = 0 then ⟨0, 0⟩
  else
    let places := 52 - quotientLog2 num den
    ⟨roundHalfEven (num <<< places.toNat) (den <<< (-places).toNat), places⟩

/-- The whole part of a binary fraction. -/
def Binary.floor (x : Binary) : Nat :=
  (x.significand <<< (-x.places).toNat) >>> x.places.toNat

/-- Whether two binary fractions are the same number. -/
def Binary.equals (x y : Binary) : Bool :=
  x.significand <<< (y.places - x.places).toNat == y.significand <<< (x.places - y.places).toNat

/-- Whether nothing is left of a binary fraction behind its whole part. -/
def Binary.isWhole (x : Binary) : Bool :=
  x.floor <<< x.places.toNat == x.significand <<< (-x.places).toNat

end SignIn.Number

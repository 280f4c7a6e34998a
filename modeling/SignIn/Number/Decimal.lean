/-
**Decimal numbers in double precision.**

The text of a floating-point number is a decimal number, perhaps with a fraction and an exponent.
It stands for the number of fifty-three significant bits nearest to that one, or for one of the
values that are no numbers.
-/

import SignIn.Number.Numeral
import SignIn.Number.Quotient

namespace SignIn.Number

/-- What the text of a floating-point number stands for. -/
inductive Double where
  | finite (negative : Bool) (magnitude : Binary)
  /-- An infinity, or not a number. -/
  | special
deriving DecidableEq

/-- Whether a floating-point number is a given integer. -/
def Double.equalsInt (value : Int) : Double → Bool
  | finite negative magnitude =>
    magnitude.equals ⟨value.natAbs, 0⟩ && (value == 0 || negative == decide (value < 0))
  | special => false

/-- A decimal number: its digits, read as a whole number, times ten to the power of an exponent. -/
structure Decimal where
  digits : Nat
  exponent : Int
deriving DecidableEq

namespace Decimal

/-- The number of fifty-three significant bits nearest to a decimal number. -/
def nearest (decimal : Decimal) : Binary :=
  nearestQuotient (decimal.digits * Nat.pow 10 decimal.exponent.toNat)
    (Nat.pow 10 (-decimal.exponent).toNat)

/-- Reads one or more decimal digits. -/
def readDigits? (digits : List Char) : Option Nat :=
  if digits.isEmpty || !digits.all Char.isDigit then none else some (Numeral.valueOf digits)

/-- Reads an exponent with its mark; a text without an exponent is empty. -/
def readExponent? : List Char → Option Int
  | [] => some 0
  | 'e' :: '-' :: digits => (readDigits? digits).map fun value => -(value : Int)
  | 'e' :: '+' :: digits => (readDigits? digits).map Int.ofNat
  | 'e' :: digits => (readDigits? digits).map Int.ofNat
  | _ => none

/-- Reads a decimal number without sign: digits, perhaps a point and more digits, perhaps an
exponent. -/
def read? (text : List Char) : Option Decimal := do
  let whole := text.takeWhile Char.isDigit
  let behind := text.dropWhile Char.isDigit
  let (fraction, rest) :=
    match behind with
    | '.' :: more => (more.takeWhile Char.isDigit, more.dropWhile Char.isDigit)
    | _ => ([], behind)
  if whole.isEmpty then none
  else return ⟨Numeral.valueOf (whole ++ fraction), (← readExponent? rest) - fraction.length⟩

end Decimal

/-- What the text of a floating-point number stands for. -/
def Double.ofText (text : String) : Double :=
  let (negative, unsigned) := Numeral.splitMinus text.toList
  match Decimal.read? unsigned with
  | some decimal => .finite negative decimal.nearest
  | none => .special

/-- The least whole number that is too large for a machine word with a sign. -/
def wordLimit : Nat := 0x8000000000000000

/-- Whether a number fits into a machine word with a sign. -/
def fitsWord (value : Int) : Bool :=
  -(wordLimit : Int) ≤ value && value < (wordLimit : Int)

/-- Why a floating-point number stands for no integer. -/
inductive Double.Defect where
  | notFinite
  | fractional
  /-- The number is whole, but too large for a machine word. -/
  | tooLarge
deriving DecidableEq

/-- The integer that a floating-point number is, if it is smaller than a machine word. -/
def Double.integer : Double → Except Double.Defect Int
  | special => .error .notFinite
  | finite negative magnitude =>
    if !magnitude.isWhole then .error .fractional
    else if wordLimit ≤ magnitude.floor then .error .tooLarge
    else .ok (if negative then -(magnitude.floor : Int) else magnitude.floor)

end SignIn.Number

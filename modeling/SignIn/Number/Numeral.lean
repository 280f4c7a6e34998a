/-
**Integer numerals.**

A plain numeral is a number in decimal digits without leading zeros, perhaps with a minus sign. A
loose numeral may also have blanks around it, a plus sign, leading zeros, single underscores
between digits and a fraction of zeros behind; it stands for the plain numeral that is left when
all of these are taken away. A minus sign may stand in front of the leading zeros or behind them.
Numerals of more than a few thousand digits are refused.
-/

import SignIn.Text.Blank

namespace SignIn.Number

namespace Numeral

/-- Why a text stands for no integer. -/
inductive Defect where
  | malformed
  | tooLong
deriving DecidableEq

/-- The most digits that a plain numeral may have. -/
def maxDigits : Nat := 4300

/-- The sign of a numeral, true for minus, and what stands behind it. -/
def splitMinus : List Char → Bool × List Char
  | '-' :: digits => (true, digits)
  | digits => (false, digits)

/-- The number that decimal digits write. -/
def valueOf (digits : List Char) : Nat :=
  digits.foldl (fun value c => 10 * value + (c.toNat - 0x30)) 0

/-- The integer that a plain numeral stands for. A number that is too long is refused as such even
where something that is no digit follows it. -/
def plain (text : List Char) : Except Defect Int :=
  let (negative, digits) := splitMinus text
  let number := digits.takeWhile Char.isDigit
  if digits = ['0'] then .ok 0
  else if number.isEmpty || number.head? == some '0' then .error .malformed
  else if maxDigits < number.length then .error .tooLong
  else if number.length < digits.length then .error .malformed
  else .ok (if negative then -(valueOf number : Int) else valueOf number)

/-- Drops the zeros, and the underscores between them, in front of a number or of its minus sign.
The last zero stays where neither follows. -/
def dropZeros (last : Char) : List Char → Option (List Char)
  | [] => some [last]
  | c :: rest =>
    if c = '0' ∨ c = '_' then dropZeros c rest
    else if c = '.' then some (last :: c :: rest)
    else if c.isDigit || c == '-' then some (c :: rest)
    else none

/-- A number without its leading zeros; a number begins with a digit. -/
def withoutZeros? : List Char → Option (List Char)
  | [] => none
  | c :: rest =>
    if c = '0' then dropZeros c rest
    else if c.isDigit then some (c :: rest)
    else none

/-- Whether a text is a point with at least one zero and nothing else behind it. -/
def isZeroFraction : List Char → Bool
  | [] => false
  | point :: zeros => point == '.' && !zeros.isEmpty && zeros.all (· == '0')

/-- A number without a fraction of zeros. -/
def withoutFraction (number : List Char) : List Char :=
  if isZeroFraction (number.dropWhile (· != '.')) then number.takeWhile (· != '.') else number

/-- Whether every underscore of a text stands between two other characters. -/
def spacedBy (between : Bool) : List Char → Bool
  | [] => between
  | c :: rest => if c = '_' then between && spacedBy false rest else spacedBy true rest

/-- A number without the underscores between its digits. -/
def withoutUnderscores? (number : List Char) : Option (List Char) :=
  if spacedBy false number then some (number.filter (· != '_')) else none

/-- The plain numeral that a loose one stands for. -/
def tidy? (text : List Char) : Option (List Char) := do
  let trimmed := Text.dropEnds Text.isSpace text
  let (negative, unsigned) :=
    match trimmed with
    | '+' :: number => (false, number)
    | _ => splitMinus trimmed
  let number ← withoutUnderscores? (withoutFraction (← withoutZeros? unsigned))
  return if negative then '-' :: number else number

end Numeral

/-- The integer that a loose numeral stands for. -/
def Numeral.loose? (text : List Char) : Option Int := do
  (plain (← tidy? text)).toOption

/-- The integer that a numeral stands for: as a plain one if it is plain, else as a loose one. Only
of a plain numeral it is said that it is too long. -/
def integer (text : String) : Except Numeral.Defect Int :=
  match Numeral.plain text.toList with
  | .error .malformed =>
    match Numeral.loose? text.toList with
    | some value => .ok value
    | none => .error .malformed
  | outcome => outcome

end SignIn.Number

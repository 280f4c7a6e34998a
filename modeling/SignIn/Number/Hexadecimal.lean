/-
**Hexadecimal numerals.**

A hexadecimal numeral is written in the letters A to F of either case and in decimal digits of any
script, with single underscores between digits. A plus sign and the mark `0x` may stand in front;
white space around the whole does not count.
-/

import SignIn.Text.Blank
import SignIn.Text.DecimalDigit
import SignIn.Text.Hex

namespace SignIn.Number

namespace Hexadecimal

/-- The value of a digit. -/
def digitValue? (c : Char) : Option Nat :=
  Text.hexValue? c <|> Text.decimalValue? c

/-- Reads digits behind a number read so far. Text may end, and an underscore may stand, only
behind a digit. -/
def readDigits (value : Nat) (afterDigit : Bool) : List Char → Option Nat
  | [] => if afterDigit then some value else none
  | c :: rest =>
    if c = '_' then if afterDigit then readDigits value false rest else none
    else
      match digitValue? c with
      | some digit => readDigits (16 * value + digit) true rest
      | none => none

/-- Whether a character is a digit zero. -/
def isZero (c : Char) : Bool :=
  Text.decimalValue? c == some 0

/-- A numeral without the mark in front of its digits, and without an underscore behind the
mark. -/
def withoutMark : List Char → List Char
  | first :: mark :: digits =>
    if isZero first && (mark == 'x' || mark == 'X') then
      match digits with
      | '_' :: rest => rest
      | _ => digits
    else first :: mark :: digits
  | digits => digits

/-- A numeral without its sign. -/
def withoutSign : List Char → List Char
  | '+' :: numeral => numeral
  | numeral => numeral

end Hexadecimal

/-- The number that a hexadecimal numeral stands for. -/
def hexadecimal? (text : List Char) : Option Nat :=
  let numeral := Hexadecimal.withoutSign (Text.dropEnds Text.isSpace text)
  Hexadecimal.readDigits 0 false (Hexadecimal.withoutMark numeral)

end SignIn.Number

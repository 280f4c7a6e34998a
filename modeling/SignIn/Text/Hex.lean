/-
**Digits of a fixed width.**

Numbers written with leading zeros in a base of at most sixteen: two hexadecimal digits to a
byte, three octal digits to an escaped character. Bytes are also read from such digits, and white
space may then stand between two bytes.
-/

import SignIn.Text.Blank

namespace SignIn.Text

/-- The digit of a value below sixteen, in lower case. -/
def digit (value : Nat) : Char :=
  "0123456789abcdef".toList.getD value '?'

/-- The last `width` digits of a number in a base, most significant first. -/
def fixedDigits (base : Nat) : (width : Nat) → Nat → List Char
  | 0, _ => []
  | width + 1, value => fixedDigits base width (value / base) ++ [digit (value % base)]

/-- The value of a hexadecimal digit of either case. -/
def hexValue? (c : Char) : Option Nat :=
  let code := c.toNat
  if 0x30 ≤ code && code ≤ 0x39 then some (code - 0x30)
  else if 0x61 ≤ code && code ≤ 0x66 then some (code - 0x61 + 10)
  else if 0x41 ≤ code && code ≤ 0x46 then some (code - 0x41 + 10)
  else none

/-- Two hexadecimal digits for each byte. -/
def hexOfBytes (bytes : List UInt8) : List Char :=
  bytes.flatMap fun byte => fixedDigits 16 2 byte.toNat

/-- Why a text writes no bytes: the character at a place, counted from zero, is not the digit that
must stand there. -/
structure HexDefect where
  place : Nat
deriving DecidableEq

/-- The text of a defect. -/
def HexDefect.message (defect : HexDefect) : String :=
  "non-hexadecimal number found in fromhex() arg at position " ++ toString defect.place

/-- Reads pairs of hexadecimal digits, with white space between pairs, from a place on. -/
def readHexPairs (place : Nat) : List Char → Except HexDefect (List UInt8)
  | [] => .ok []
  | [last] =>
    if isSpace last then .ok []
    else .error ⟨if (hexValue? last).isSome then place + 1 else place⟩
  | high :: low :: rest =>
    if isSpace high then readHexPairs (place + 1) (low :: rest)
    else
      match hexValue? high, hexValue? low with
      | some upper, some lower =>
        (readHexPairs (place + 2) rest).map (UInt8.ofNat (16 * upper + lower) :: ·)
      | some _, none => .error ⟨place + 1⟩
      | none, _ => .error ⟨place⟩

/-- The bytes that pairs of hexadecimal digits write. A character outside ASCII is found before any
other that does not belong there. -/
def bytesOfHex (text : List Char) : Except HexDefect (List UInt8) :=
  match text.findIdx? (0x80 ≤ ·.toNat) with
  | some place => .error ⟨place⟩
  | none => readHexPairs 0 text

end SignIn.Text

/-
**Universally unique identifiers.**

An identifier is sixteen bytes; its text is thirty-two hexadecimal digits in groups of 8, 4, 4,
4 and 12.
-/

import SignIn.Number.Hexadecimal
import SignIn.Text.Quoted

namespace SignIn

/-- An identifier of sixteen bytes. -/
structure Uuid where
  bytes : List UInt8
  length_bytes : bytes.length = 16
deriving DecidableEq

namespace Uuid

/-- The identifier with given bytes, if there are sixteen of them. -/
def ofBytes? (bytes : List UInt8) : Option Uuid :=
  if length : bytes.length = 16 then some ⟨bytes, length⟩ else none

/-- The last `width` bytes of a number, most significant first. -/
def bigEndian : (width : Nat) → (value : Nat) → List UInt8
  | 0, _ => []
  | width + 1, value => bigEndian width (value >>> 8) ++ [UInt8.ofNat value]

/-- There are as many bytes as were asked for. -/
@[simp] theorem length_bigEndian (width value : Nat) : (bigEndian width value).length = width := by
  induction width generalizing value with
  | zero => rfl
  | succ width ih => simp [bigEndian, ih]

/-- The identifier whose bytes write a number; of a larger one its last sixteen bytes count. -/
def ofNat (value : Nat) : Uuid :=
  ⟨bigEndian 16 value, length_bigEndian 16 value⟩

/-- Splits a text into groups of given sizes, with a hyphen between two groups. -/
def hyphenate : List Nat → List Char → List Char
  | [], _ => []
  | [size], digits => digits.take size
  | size :: sizes, digits => digits.take size ++ '-' :: hyphenate sizes (digits.drop size)

/-- The text of an identifier: small hexadecimal digits with hyphens. -/
def text (id : Uuid) : String :=
  String.ofList (hyphenate [8, 4, 4, 4, 12] (Text.hexOfBytes id.bytes))

/-- Removes every occurrence of a nonempty text, from left to right. -/
def removeAll (part : List Char) : List Char → List Char
  | [] => []
  | c :: rest =>
    if part.isPrefixOf (c :: rest) then removeAll part (rest.drop (part.length - 1))
    else c :: removeAll part rest
termination_by cs => cs.length
decreasing_by
  · simp only [List.length_drop, List.length_cons]
    omega
  · simp only [List.length_cons]
    omega

/-- The braces that may stand around an identifier. -/
def isBrace (c : Char) : Bool :=
  c.toNat == 0x7B || c.toNat == 0x7D

/-- Why a text is no identifier. -/
inductive Defect where
  /-- There are not thirty-two characters in it, apart from what may stand around and between
  them. -/
  | wrongLength
  /-- The characters are no hexadecimal numeral. -/
  | noNumeral (digits : List Char)
deriving DecidableEq

/-- The most characters of a numeral that are shown in a message, its quotes included. -/
def shownLength : Nat := 200

/-- The text of a defect. -/
def Defect.message : Defect → String
  | wrongLength => "badly formed hexadecimal UUID string"
  | noNumeral digits =>
    let shown := (Text.quoted (String.ofList digits)).toList.take shownLength
    "invalid literal for int() with base 16: " ++ String.ofList shown

/-- Reads an identifier: a hexadecimal numeral of thirty-two characters, with hyphens anywhere,
inside braces or after `urn:uuid:` if one likes. -/
def ofText (text : String) : Except Defect Uuid :=
  let bare := removeAll "uuid:".toList (removeAll "urn:".toList text.toList)
  let digits := (Text.dropEnds isBrace bare).filter (· != '-')
  if digits.length ≠ 32 then .error .wrongLength
  else
    match Number.hexadecimal? digits with
    | some value => .ok (ofNat value)
    | none => .error (.noNumeral digits)

end Uuid

end SignIn

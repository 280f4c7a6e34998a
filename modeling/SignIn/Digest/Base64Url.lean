/-
**The base64url encoding** (RFC 4648, section 5).

Three bytes make four characters of an alphabet of sixty-four; a rest of one or two bytes is
filled up with the padding character. The reader accepts exactly padded groups of the alphabet.
-/

namespace SignIn.Base64Url

/-- The character that stands for a value below sixty-four: capitals, small letters, digits, and
the two characters that are safe in a URL. -/
def symbol (value : Nat) : Char :=
  "ABCDEFGHIJKLMNOPQRSTUVWXYZabcdefghijklmnopqrstuvwxyz0123456789-_".toList.getD value '?'

/-- The character that fills up the last group. -/
def padding : Char := '='

/-- The value of a character of the alphabet. -/
def value? (c : Char) : Option Nat :=
  let code := c.toNat
  if 0x41 ≤ code && code ≤ 0x5A then some (code - 0x41)
  else if 0x61 ≤ code && code ≤ 0x7A then some (code - 0x61 + 26)
  else if 0x30 ≤ code && code ≤ 0x39 then some (code - 0x30 + 52)
  else if c == '-' then some 62
  else if c == '_' then some 63
  else none

/-- The padded encoding of bytes. -/
def encode : List UInt8 → List Char
  | [] => []
  | [first] =>
    let a := first.toNat
    [symbol (a / 4), symbol (a % 4 * 16), padding, padding]
  | [first, second] =>
    let a := first.toNat
    let b := second.toNat
    [symbol (a / 4), symbol (a % 4 * 16 + b / 16), symbol (b % 16 * 4), padding]
  | first :: second :: third :: rest =>
    let a := first.toNat
    let b := second.toNat
    let c := third.toNat
    symbol (a / 4) :: symbol (a % 4 * 16 + b / 16) :: symbol (b % 16 * 4 + c / 64) ::
      symbol (c % 64) :: encode rest

/-- The bytes that a padded encoding stands for: groups of four characters of the alphabet, of
which only the last may end in padding, after unused bits that are zero. -/
def decode : List Char → Option (List UInt8)
  | [] => some []
  | [first, second, third, fourth] => do
    let w ← value? first
    let x ← value? second
    if third == padding && fourth == padding then
      if x % 16 == 0 then return [UInt8.ofNat (w * 4 + x / 16)] else none
    else
      let y ← value? third
      if fourth == padding then
        if y % 4 == 0 then
          return [UInt8.ofNat (w * 4 + x / 16), UInt8.ofNat (x % 16 * 16 + y / 4)]
        else none
      else
        let z ← value? fourth
        return [UInt8.ofNat (w * 4 + x / 16), UInt8.ofNat (x % 16 * 16 + y / 4),
          UInt8.ofNat (y % 4 * 64 + z)]
  | first :: second :: third :: fourth :: rest => do
    let w ← value? first
    let x ← value? second
    let y ← value? third
    let z ← value? fourth
    let bytes ← decode rest
    return UInt8.ofNat (w * 4 + x / 16) :: UInt8.ofNat (x % 16 * 16 + y / 4) ::
      UInt8.ofNat (y % 4 * 64 + z) :: bytes
  | _ => none

/-- A text without the padding characters at its end. -/
def dropPadding (text : List Char) : List Char :=
  (text.reverse.dropWhile (· == padding)).reverse

end SignIn.Base64Url

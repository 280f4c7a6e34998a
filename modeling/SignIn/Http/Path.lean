/-
**Request paths.**

The path of a request as it stands in the address that was asked for: it begins with a slash, and
nothing in it can be taken for the end of the path. Tabs and line ends have no place in an address
and are dropped.
-/

import SignIn.Text.Hex

namespace SignIn.Path

/-- The characters that would end a path or divide it in another way. -/
def isDelimiter (c : Char) : Bool :=
  c == '?' || c == '#' || c.toNat == 0x5C

/-- The characters that an address cannot hold. -/
def isDropped (c : Char) : Bool :=
  c == '\t' || c == '\n' || c == '\r'

/-- An ASCII character by its number, in two capital hexadecimal digits behind a percent sign. -/
def percentEscape (c : Char) : List Char :=
  '%' :: (Text.fixedDigits 16 2 c.toNat).map Char.toUpper

/-- How a character is written in an address. -/
def encode (c : Char) : List Char :=
  if isDropped c then []
  else if isDelimiter c then percentEscape c
  else [c]

/-- A path behind a slash; the empty path has none. -/
def rooted (path : List Char) : List Char :=
  if path.isEmpty || path.head? == some '/' then path else '/' :: path

/-- The path of an address. -/
def inAddress (path : String) : String :=
  String.ofList ((rooted path.toList).flatMap encode)

end SignIn.Path

/-
**Blank characters.**

Trimming removes the blank characters at both ends of a text and nothing else.
-/

namespace SignIn.Text

/-- The characters with the white space property of Unicode. -/
def isSpace (c : Char) : Bool :=
  let code := c.toNat
  (0x09 ≤ code && code ≤ 0x0D) || code == 0x20 || code == 0x85 || code == 0xA0 ||
    code == 0x1680 || (0x2000 ≤ code && code ≤ 0x200A) || code == 0x2028 || code == 0x2029 ||
    code == 0x202F || code == 0x205F || code == 0x3000

/-- The characters that separate words, lines or records: white space and the four information
separators. -/
def isBlank (c : Char) : Bool :=
  isSpace c || (0x1C ≤ c.toNat && c.toNat ≤ 0x1F)

/-- Drops the characters of a class at both ends. -/
def dropEnds (isDropped : Char → Bool) (cs : List Char) : List Char :=
  ((cs.dropWhile isDropped).reverse.dropWhile isDropped).reverse

/-- Drops the blank characters at both ends. -/
def trim (cs : List Char) : List Char :=
  dropEnds isBlank cs

/-- A text without the blank characters at its ends. -/
def strip (text : String) : String :=
  String.ofList (trim text.toList)

/-- Whether a text begins with another. -/
def startsWith (text start : String) : Bool :=
  start.toList.isPrefixOf text.toList

end SignIn.Text

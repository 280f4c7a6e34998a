/-
**Quoted texts.**

A text or a byte string shown between quotes, with everything that does not show as itself
escaped. The quotes are single, unless the content holds a single quote and no double one. The
quote around a content is escaped inside it; in a buffer the single quote always is.
-/

import SignIn.Text.Hex
import SignIn.Text.Printable

namespace SignIn.Text

/-- The single quote. -/
def singleQuote : Char := Char.ofNat 0x27

/-- The double quote. -/
def doubleQuote : Char := Char.ofNat 0x22

/-- The character that begins an escape. -/
def backslash : Char := Char.ofNat 0x5C

/-- The quote to put around a content: the single one, unless the content holds it and does not
hold the double one. -/
def quoteFor (content : List Char) : Char :=
  if content.contains singleQuote && !content.contains doubleQuote then doubleQuote
  else singleQuote

/-- The escape of a character by its number: two hexadecimal digits, else four, else eight. -/
def numberEscape (c : Char) : List Char :=
  let code := c.toNat
  if code < 0x100 then backslash :: 'x' :: fixedDigits 16 2 code
  else if code < 0x10000 then backslash :: 'u' :: fixedDigits 16 4 code
  else backslash :: 'U' :: fixedDigits 16 8 code

/-- How a character is written between quotes, of which `mark` is escaped, where `shown` tells
which characters show as themselves. -/
def escape (shown : Char → Bool) (mark c : Char) : List Char :=
  if c == mark || c == backslash then [backslash, c]
  else if c == '\n' then [backslash, 'n']
  else if c == '\r' then [backslash, 'r']
  else if c == '\t' then [backslash, 't']
  else if shown c then [c]
  else numberEscape c

/-- A content between its quotes. -/
def quoteWith (shown : Char → Bool) (content : List Char) : List Char :=
  let mark := quoteFor content
  mark :: content.flatMap (escape shown mark) ++ [mark]

/-- A text in quotes. -/
def quoted (text : String) : String :=
  String.ofList (quoteWith isPrintable text.toList)

/-- The printable characters of ASCII. -/
def isPrintableAscii (c : Char) : Bool :=
  0x20 ≤ c.toNat && c.toNat ≤ 0x7E

/-- The characters with the numbers of bytes. -/
def latinOfBytes (bytes : List UInt8) : List Char :=
  bytes.map fun byte => Char.ofNat byte.toNat

/-- A byte string in quotes after the letter `b`; only printable ASCII shows as itself. -/
def quotedBytes (bytes : List UInt8) : String :=
  String.ofList ('b' :: quoteWith isPrintableAscii (latinOfBytes bytes))

/-- The bytes of a buffer in quotes after the letter `b`. The single quote is escaped between
double quotes too. -/
def quotedBuffer (bytes : List UInt8) : String :=
  let content := latinOfBytes bytes
  let mark := quoteFor content
  String.ofList
    ('b' :: mark :: content.flatMap (escape isPrintableAscii singleQuote) ++ [mark])

end SignIn.Text

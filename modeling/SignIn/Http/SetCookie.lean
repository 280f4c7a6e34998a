/-
**The Set-Cookie header** (RFC 6265, section 4.1).

A cookie is written as its name and its coded value, followed by its attributes, with a
semicolon and a space between two parts. A value that is no token is written between double
quotes with octal escapes. A header has only characters of Latin-1: a cookie whose name or value
cannot be written so is refused.
-/

import SignIn.Cookie
import SignIn.Text.Case

namespace SignIn.SetCookie

/-- Why a cookie cannot be written. -/
inductive Refusal where
  /-- The name is the word for an attribute. -/
  | reservedKey (key : String)
  /-- The name is no token. -/
  | illegalKey (key : String)
  /-- The header would have a character beyond Latin-1. -/
  | notLatin1
deriving DecidableEq

/-- The text of a refusal, where the refusal is of this library. -/
def Refusal.message? : Refusal → Option String
  | reservedKey key => some ("Attempt to set a reserved key " ++ Text.quoted key)
  | illegalKey key => some ("Illegal key " ++ Text.quoted key)
  | notLatin1 => none

/-- The words that name attributes, in lower case. -/
def attributeWords : List String :=
  ["expires", "path", "comment", "domain", "max-age", "secure", "httponly", "version", "samesite"]

/-- Whether a character may stand in a token. -/
def isTokenChar (c : Char) : Bool :=
  c.isAlphanum || "!#$%&'*+-.^_`|~:".toList.contains c

/-- Whether a text is a token: nonempty, of token characters only. -/
def isToken (text : List Char) : Bool :=
  !text.isEmpty && text.all isTokenChar

/-- Whether a character shows as itself between quotes. -/
def isPlain (c : Char) : Bool :=
  isTokenChar c || " ()/<=>?@[]\x7b\x7d".toList.contains c

/-- Whether a character belongs to Latin-1. -/
def isLatin1 (c : Char) : Bool :=
  c.toNat < 0x100

/-- How a character is written between quotes. -/
def escape (c : Char) : List Char :=
  if c == Text.doubleQuote || c == Text.backslash then [Text.backslash, c]
  else if isPlain c || !isLatin1 c then [c]
  else Text.backslash :: Text.fixedDigits 8 3 c.toNat

/-- The coded form of a value: a token stands for itself, anything else between quotes. -/
def codedValue (value : List Char) : List Char :=
  if isToken value then value
  else Text.doubleQuote :: value.flatMap escape ++ [Text.doubleQuote]

/-- The parts of a cookie's header, in order. An empty path is not written. -/
def segments (cookie : Cookie) : List (List Char) :=
  [cookie.key.toList ++ '=' :: codedValue cookie.value.toList,
    "HttpOnly".toList,
    "Max-Age=".toList ++ (toString cookie.maxAgeSeconds).toList] ++
  (if cookie.path = "" then [] else ["Path=".toList ++ cookie.path.toList]) ++
  ["SameSite=".toList ++ cookie.sameSite.word.toList] ++
  (if cookie.secure then ["Secure".toList] else [])

/-- Joins the parts of a header. -/
def joinSegments (parts : List (List Char)) : List Char :=
  "; ".toList.intercalate parts

/-- The header of a cookie, or why it cannot be written. -/
def render (cookie : Cookie) : Except Refusal String :=
  if attributeWords.contains (Text.lower cookie.key) then .error (.reservedKey cookie.key)
  else if !isToken cookie.key.toList then .error (.illegalKey cookie.key)
  else
    let header := joinSegments (segments cookie)
    if header.all isLatin1 then .ok (String.ofList header) else .error .notLatin1

end SignIn.SetCookie

/-
**The Cookie header** (RFC 6265, section 4.2).

A request names its cookies as `name=value` pairs with a semicolon between two pairs. Blanks
around names and values do not count, and a value between double quotes loses the quotes and its
escapes.
-/

import SignIn.Cookie.Jar
import SignIn.Text.Blank
import SignIn.Text.Split

namespace SignIn.CookieHeader

/-- The value of an octal digit. -/
def octalValue? (c : Char) : Option Nat :=
  if 0x30 ≤ c.toNat && c.toNat ≤ 0x37 then some (c.toNat - 0x30) else none

/-- The character of Latin-1 that three octal digits name, the first of them at most three. -/
def octalChar? (first second third : Char) : Option Char := do
  let x ← octalValue? first
  let y ← octalValue? second
  let z ← octalValue? third
  if x ≤ 3 then return Char.ofNat (64 * x + 8 * y + z) else none

/-- An escape of a single character, which stands for itself; a line feed is not escaped. -/
def plainEscape? (c : Char) (rest : List Char) : Option (Char × List Char) :=
  if c = '\n' then none else some (c, rest)

/-- The character that an escape stands for, and the text after it. The text begins behind the
backslash: three octal digits name a character, any other character stands for itself. -/
def readEscape? : List Char → Option (Char × List Char)
  | first :: second :: third :: rest =>
    match octalChar? first second third with
    | some named => some (named, rest)
    | none => plainEscape? first (second :: third :: rest)
  | first :: rest => plainEscape? first rest
  | [] => none

theorem length_of_plainEscape? {c d : Char} {rest left : List Char}
    (read : plainEscape? c rest = some (d, left)) : left.length < (c :: rest).length := by
  unfold plainEscape? at read
  split at read
  · cases read
  · cases read
    simp

/-- The text behind an escape is shorter than the text behind its backslash. -/
theorem length_of_readEscape? {text left : List Char} {c : Char}
    (read : readEscape? text = some (c, left)) : left.length < text.length := by
  unfold readEscape? at read
  split at read
  · split at read
    · cases read
      simp
      omega
    · exact length_of_plainEscape? read
  · exact length_of_plainEscape? read
  · cases read

/-- Resolves the escapes of a text, from left to right. A backslash that begins no escape stands
for itself. -/
def unescape : List Char → List Char
  | [] => []
  | c :: rest =>
    if c = Text.backslash then
      match _read : readEscape? rest with
      | some (named, tail) => named :: unescape tail
      | none => c :: unescape rest
    else c :: unescape rest
termination_by text => text.length
decreasing_by
  · have shorter := length_of_readEscape? _read
    simp only [List.length_cons]
    omega
  · simp only [List.length_cons]
    omega
  · simp only [List.length_cons]
    omega

/-- The value that a coded value stands for. -/
def decodedValue (coded : List Char) : List Char :=
  if 2 ≤ coded.length && coded.head? == some Text.doubleQuote &&
      coded.getLast? == some Text.doubleQuote then
    unescape (coded.drop 1).dropLast
  else coded

/-- The name and the coded value in one part of a header; without an equals sign the name is
empty. -/
def splitPair (part : List Char) : List Char × List Char :=
  if part.contains '=' then
    (part.takeWhile (· != '='), (part.dropWhile (· != '=')).drop 1)
  else ([], part)

/-- The cookie in one part of a header; a part of blanks names none. -/
def readPair? (part : List Char) : Option (String × String) :=
  let (key, coded) := splitPair part
  let name := Text.trim key
  let value := Text.trim coded
  if name.isEmpty && value.isEmpty then none
  else some (String.ofList name, String.ofList (decodedValue value))

/-- The cookies that a header names, in order. -/
def read (header : String) : List (String × String) :=
  (Text.splitOn ';' header.toList).filterMap readPair?

/-- The jar of a request with given Cookie headers. -/
def jarOf (headers : List String) : Jar :=
  Jar.ofIncoming (headers.flatMap read)

end SignIn.CookieHeader

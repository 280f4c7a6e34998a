/-
**Reading settings.**

A setting is read from a value that may be of any type, mostly a text. Reading several settings
gives either all of them or every issue found, in the order of the settings:

* `seq_flawed`: of two readings that fail, the issues of both are kept.
-/

import SignIn.Number.Decimal
import SignIn.Value

namespace SignIn.Settings

/-- What is wrong with the value of a setting. -/
inductive Defect where
  /-- A text or a number that stands for no truth value. -/
  | unclearBool
  /-- A value of a type that no truth value is read from. -/
  | noBool
  /-- A text that is no numeral. -/
  | unclearInt
  /-- A numeral that is too long, or a floating-point number that is too large. -/
  | oversizedInt
  /-- A floating-point number that is not whole. -/
  | fractionalInt
  /-- A floating-point value that is no number. -/
  | infiniteInt
  /-- A value of a type that no number is read from. -/
  | noInt
  /-- A value that is no text. -/
  | noText
  /-- Bytes that encode no text. -/
  | unclearText
deriving DecidableEq

/-- The name of a defect. -/
def Defect.name : Defect → String
  | unclearBool => "bool_parsing"
  | noBool => "bool_type"
  | unclearInt => "int_parsing"
  | oversizedInt => "int_parsing_size"
  | fractionalInt => "int_from_float"
  | infiniteInt => "finite_number"
  | noInt => "int_type"
  | noText => "string_type"
  | unclearText => "string_unicode"

/-- A defect, and the setting that has it. -/
structure Issue where
  setting : String
  defect : Defect
deriving DecidableEq

/-- What was read, or every issue found. -/
inductive Reading (α : Type) where
  | complete (result : α)
  | flawed (issues : List Issue)

namespace Reading

variable {α β : Type}

/-- Applies what one reading gave to what another gave; the issues of both are kept. -/
def apply : Reading (α → β) → Reading α → Reading β
  | complete function, complete argument => complete (function argument)
  | complete _, flawed later => flawed later
  | flawed earlier, complete _ => flawed earlier
  | flawed earlier, flawed later => flawed (earlier ++ later)

instance : Applicative Reading where
  pure := complete
  seq function argument := apply function (argument ())

/-- **Of two readings that fail, the issues of both are kept.** -/
theorem seq_flawed (earlier later : List Issue) :
    ((flawed earlier : Reading (α → β)) <*> flawed later) = flawed (earlier ++ later) := rfl

/-- Reads a value; its defect is an issue with a named setting. -/
def ofDefect (setting : String) : Except Defect α → Reading α
  | .ok result => complete result
  | .error defect => flawed [⟨setting, defect⟩]

end Reading

/-- The texts that stand for *true*, in lower case. -/
def trueTexts : List String := ["1", "true", "t", "yes", "y", "on"]

/-- The texts that stand for *false*, in lower case. -/
def falseTexts : List String := ["0", "false", "f", "no", "n", "off"]

/-- Reads a truth value from a text, in which the case of the letters A to Z does not count. -/
def boolOfText (text : String) : Except Defect Bool :=
  let word := String.ofList (text.toList.map Char.toLower)
  if trueTexts.contains word then .ok true
  else if falseTexts.contains word then .ok false
  else .error .unclearBool

/-- Reads a truth value from a number. -/
def boolOfInt (value : Int) : Except Defect Bool :=
  if value = 0 then .ok false
  else if value = 1 then .ok true
  else .error .unclearBool

/-- The text that bytes encode in UTF-8. -/
def textOfBytes? (content : List UInt8) : Option String :=
  String.fromUTF8? ⟨content.toArray⟩

/-- Reads a truth value. -/
def readBool : Value → Except Defect Bool
  | .bool value => .ok value
  | .int value => if Number.fitsWord value then boolOfInt value else .error .noBool
  | .float shortest =>
    match (Number.Double.ofText shortest).integer with
    | .ok value => boolOfInt value
    | .error _ => .error .noBool
  | .text content => boolOfText content
  | .bytes .string content =>
    match textOfBytes? content with
    | some text => boolOfText text
    | none => .error .unclearBool
  | _ => .error .noBool

/-- Reads a number from a text. -/
def intOfText (text : String) : Except Defect Int :=
  (Number.integer text).mapError fun
    | .malformed => .unclearInt
    | .tooLong => .oversizedInt

/-- Reads a number from a floating-point number, which must be whole and fit into a machine
word. -/
def intOfFloat (shortest : String) : Except Defect Int :=
  (Number.Double.ofText shortest).integer.mapError fun
    | .notFinite => .infiniteInt
    | .fractional => .fractionalInt
    | .tooLarge => .oversizedInt

/-- Reads a number. -/
def readInt : Value → Except Defect Int
  | .int value => .ok value
  | .bool value => .ok (if value then 1 else 0)
  | .float shortest => intOfFloat shortest
  | .text content => intOfText content
  | .bytes .string content =>
    match textOfBytes? content with
    | some text => intOfText text
    | none => .error .unclearInt
  | _ => .error .noInt

/-- Reads a text from bytes. -/
def textOfBytes (content : List UInt8) : Except Defect String :=
  match textOfBytes? content with
  | some text => .ok text
  | none => .error .unclearText

/-- Reads a text. -/
def readText : Value → Except Defect String
  | .text content => .ok content
  | .bytes .string content => textOfBytes content
  | .bytes .buffer content => textOfBytes content
  | _ => .error .noText

/-- A site URL as it is configured: blanks around it do not count, and nothing is left of a blank
one. -/
def siteUrl? (text : String) : Option String :=
  let url := Text.strip text
  if url = "" then none else some url

/-- Reads a site URL, which may be missing. One that is given as bytes is taken as it stands. -/
def readSiteUrl : Value → Except Defect (Option String)
  | .null => .ok none
  | .text content => .ok (siteUrl? content)
  | other => (readText other).map some

end SignIn.Settings

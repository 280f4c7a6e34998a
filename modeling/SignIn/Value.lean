/-
**Values of unknown type.**

A cell of a row, a setting passed by name or a field of a log record may hold a value of any of
these types. What is known of a value is its type's name, whether it counts as true, and how it
is shown, if it can be shown at all: an integer of too many digits cannot, and no value that holds
one. Memory and stack are taken to suffice, however deep a value is nested.
-/

import SignIn.Number.Numeral
import SignIn.Text.Quoted
import SignIn.Uuid

namespace SignIn

/-- The three types that hold bytes. -/
inductive ByteForm where
  /-- A constant byte string. -/
  | string
  /-- A buffer that can change. -/
  | buffer
  /-- A window on the memory of another object, with an address of its own. -/
  | window (address : Nat)
deriving DecidableEq

/-- A value of unknown type. -/
inductive Value where
  | null
  | bool (value : Bool)
  | int (value : Int)
  /-- A floating-point number, kept as its shortest decimal text. -/
  | float (shortest : String)
  | text (content : String)
  | bytes (form : ByteForm) (content : List UInt8)
  | uuid (id : Uuid)
  | list (items : List Value)
  | record (fields : List (String × Value))

namespace Value

/-- The name of a value's type. -/
def typeName : Value → String
  | null => "NoneType"
  | bool _ => "bool"
  | int _ => "int"
  | float _ => "float"
  | text _ => "str"
  | bytes .string _ => "bytes"
  | bytes .buffer _ => "bytearray"
  | bytes (.window _) _ => "memoryview"
  | uuid _ => "UUID"
  | list _ => "list"
  | record _ => "dict"

/-- Whether a value counts as true: null, false, zero of either kind, and everything empty do
not. -/
def truthy : Value → Bool
  | null => false
  | bool value => value
  | int value => value != 0
  | float shortest => shortest != "0.0" && shortest != "-0.0"
  | text content => content != ""
  | bytes _ content => !content.isEmpty
  | uuid _ => true
  | list items => !items.isEmpty
  | record fields => !fields.isEmpty

/-- How a truth value is shown. -/
def shownBool (value : Bool) : String :=
  if value then "True" else "False"

/-- How bytes are shown: a window by its address only. -/
def shownBytes : ByteForm → List UInt8 → String
  | .string, content => Text.quotedBytes content
  | .buffer, content => "bytearray(" ++ Text.quotedBuffer content ++ ")"
  | .window address, _ => "<memory at 0x" ++ String.ofList (Nat.toDigits 16 address) ++ ">"

/-- How an identifier is shown. -/
def shownId (id : Uuid) : String :=
  "UUID(" ++ Text.quoted id.text ++ ")"

/-- Whether an integer has more digits than may be written. Its sign does not count. -/
def hasTooManyDigits (value : Int) : Bool :=
  Number.Numeral.maxDigits < (Nat.toDigits 10 value.natAbs).length

/-- How an integer is shown, if it has not too many digits. -/
def shownInt? (value : Int) : Option String :=
  if hasTooManyDigits value then none else some (toString value)

/-- What is said of an integer that has too many digits. -/
def tooManyDigits : String :=
  "Exceeds the limit (" ++ toString Number.Numeral.maxDigits ++
    " digits) for integer string conversion; use sys.set_int_max_str_digits() to increase the limit"

mutual

/-- How a value is shown inside a message, if everything in it can be shown. -/
def shown? : Value → Option String
  | null => some "None"
  | bool value => some (shownBool value)
  | int value => shownInt? value
  | float shortest => some shortest
  | text content => some (Text.quoted content)
  | bytes form content => some (shownBytes form content)
  | uuid id => some (shownId id)
  | list items => do
    let shown ← shownItems? items
    return "[" ++ ", ".intercalate shown ++ "]"
  | record fields => do
    let shown ← shownFields? fields
    return "\x7b" ++ ", ".intercalate shown ++ "\x7d"

/-- The items of a list, each as it is shown. -/
def shownItems? : List Value → Option (List String)
  | [] => some []
  | item :: rest => do
    let first ← shown? item
    return first :: (← shownItems? rest)

/-- The fields of a record, each with its name in quotes. -/
def shownFields? : List (String × Value) → Option (List String)
  | [] => some []
  | (name, value) :: rest => do
    let first ← shown? value
    return (Text.quoted name ++ ": " ++ first) :: (← shownFields? rest)

end

/-- Whether a value is null. -/
def isNull : Value → Bool
  | null => true
  | _ => false

/-- Whether a value is the truth value *true* itself. -/
def isTrue : Value → Bool
  | bool value => value
  | _ => false

end Value

end SignIn

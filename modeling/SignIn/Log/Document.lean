/-
**Documents.**

A document is an object of named values, which may be objects themselves. It is made from values
and the places where they belong; a point in the name of a field divides a place too. Two values
at one place, or a value at a place that another one's way leads through, make no document:

* `insert?_singleton`: a value goes to a place of its own exactly if nothing has that name yet.
-/

import SignIn.Log
import SignIn.Text.Split

namespace SignIn.Log

/-- A place in a document: the names of the objects on the way to it, and its own. -/
abbrev Place := List String

/-- The place that a name stands for. -/
def Place.ofName (name : String) : Place :=
  (Text.splitOn '.' name.toList).map String.ofList

/-- Values, each with its place in a document. -/
abbrev Leaves := List (Place × Value)

mutual

/-- The values in a value at a place. An object without fields leaves nothing. -/
def leavesAt (place : Place) : Value → Leaves
  | .record fields => leavesUnder place fields
  | other => [(place, other)]

/-- The values in the fields of an object at a place. -/
def leavesUnder (place : Place) : List (String × Value) → Leaves
  | [] => []
  | (name, value) :: rest => leavesAt (place ++ Place.ofName name) value ++ leavesUnder place rest

end

/-- The values in fields, which must have different places. -/
def leaves? (fields : Fields) : Option Leaves :=
  let found := leavesUnder [] fields
  if (found.map Prod.fst).Nodup then some found else none

/-- Puts a value in place of that of a named field. -/
def replaceField (name : String) (value : Value) (fields : Fields) : Fields :=
  fields.map fun field => if field.1 = name then (name, value) else field

/-- Puts a value at a place of an object. -/
def insert? (value : Value) : Place → Fields → Option Fields
  | [], _ => none
  | [name], fields =>
    if (fields.lookup name).isSome then none else some (fields ++ [(name, value)])
  | name :: rest, fields =>
    match fields.lookup name with
    | none => (insert? value rest []).map fun inner => fields ++ [(name, .record inner)]
    | some (.record inner) =>
      (insert? value rest inner).map fun grown => replaceField name (.record grown) fields
    | some _ => none

/-- **A value goes to a place of its own exactly if nothing has that name yet.** -/
theorem insert?_singleton (value : Value) (name : String) (fields : Fields) :
    insert? value [name] fields =
      if (fields.lookup name).isSome then none else some (fields ++ [(name, value)]) := by
  simp [insert?]

/-- The document with given values at their places. -/
def document? (leaves : Leaves) : Option Fields :=
  leaves.foldlM (fun fields leaf => insert? leaf.2 leaf.1 fields) []

mutual

/-- A value as it can be written: what no document can hold is written as it is shown. -/
def writable : Value → Value
  | .bytes form content => .text (Value.shownBytes form content)
  | .uuid id => .text (Value.shownId id)
  | .list items => .list (writableItems items)
  | .record fields => .record (writableFields fields)
  | other => other

/-- The items of a list as they can be written. -/
def writableItems : List Value → List Value
  | [] => []
  | item :: rest => writable item :: writableItems rest

/-- The fields of an object as they can be written. -/
def writableFields : List (String × Value) → List (String × Value)
  | [] => []
  | (name, value) :: rest => (name, writable value) :: writableFields rest

end

end SignIn.Log

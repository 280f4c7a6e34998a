/-
**Lines of the log.**

An entry that is sent through a logger becomes a record, which is stamped with the service it comes
from. A handler passes a record through its filter, which may hide secrets, and writes it as a line,
which is a document of its own fields and those of the entry:

* `ofRecord?_of_pass`: a line shows no more of a record than the filter of its handler lets pass.
-/

import SignIn.Log.Document
import SignIn.Log.Redaction
import SignIn.Text.Case

namespace SignIn.Log

/-- The service that an entry comes from. -/
structure Service where
  name : String
  environment : String
deriving DecidableEq

/-- The name of the field of a record that holds the service. -/
def Service.fieldName : String := "service"

/-- A service as a field of a record. -/
def Service.field (service : Service) : String × Value :=
  (fieldName, .record [("name", .text service.name), ("environment", .text service.environment)])

/-- An entry that was sent through a logger. -/
structure Record where
  level : Level
  logger : String
  message : String
  service : Option Service
  fields : Fields

/-- Hides the secrets of a record, and tells whether the record is kept: all of them are. -/
def Record.hideSecrets (record : Record) : Bool × Record :=
  (true, { record with fields := redact record.fields })

/-- What writes records to the output. -/
structure Handler where
  /-- Whether secrets are hidden before a record is written. -/
  redacts : Bool
deriving DecidableEq

/-- Passes a record through the filter of a handler: whether the record is kept, and how. -/
def Handler.pass (handler : Handler) (record : Record) : Bool × Record :=
  if handler.redacts then record.hideSecrets else (true, record)

/-- A line of the output. -/
structure Line where
  level : Level
  logger : String
  /-- The message, or what the fields of the entry say in its place. -/
  message : Value
  /-- The service, with what the fields of the entry say about it. -/
  service : Option Value
  /-- The fields besides. -/
  fields : Fields

namespace Line

/-- The values that every line has of its own. What tells when, where and in which process an entry
was made is not kept, but has its place. -/
def ownLeaves (record : Record) : Leaves := [
  (["@timestamp"], .null),
  (["log", "level"], .text (Text.lower record.level.name)),
  (["log", "logger"], .text record.logger),
  (["log", "original"], .text record.message),
  (["log", "origin", "function"], .null),
  (["log", "origin", "file", "line"], .null),
  (["log", "origin", "file", "name"], .null),
  (["process", "pid"], .null),
  (["process", "name"], .null),
  (["process", "thread", "id"], .null),
  (["process", "thread", "name"], .null)]

/-- The names of the objects and values that a line has of its own, apart from its other
fields. -/
def ownNames : List String := ["@timestamp", "log", "process", "message", "service"]

/-- The names of fields that are never written, because every object has attributes of these
names. -/
def unwrittenNames : List String := [
  "__class__", "__delattr__", "__dict__", "__dir__", "__doc__", "__eq__", "__format__", "__ge__",
  "__getattribute__", "__getstate__", "__gt__", "__hash__", "__init__", "__init_subclass__",
  "__le__", "__lt__", "__module__", "__ne__", "__new__", "__reduce__", "__reduce_ex__",
  "__repr__", "__setattr__", "__sizeof__", "__str__", "__subclasshook__", "__weakref__"]

/-- The name under which a record's message is asked for. A field of this name leaves the record
without a message, so that it cannot be written. -/
def messageName : String := "getMessage"

/-- The fields that a tracer adds to entries, and the places where their values belong. -/
def tracerPlaces : List (String × Place) := [
  ("elasticapm_span_id", ["span", "id"]),
  ("elasticapm_transaction_id", ["transaction", "id"]),
  ("elasticapm_trace_id", ["trace", "id"]),
  ("elasticapm_service_name", ["service", "name"]),
  ("elasticapm_service_environment", ["service", "environment"])]

/-- The object of the tracer's labels, of which nothing is written. -/
def labelsName : String := "elasticapm_labels"

/-- Moves the value of a tracer's field to where it belongs; it is dropped if another value is
there, be it null. -/
def settle (leaves : Leaves) (field : String × Place) : Leaves :=
  if leaves.any (·.1 == field.2) then leaves.filter (·.1 != [field.1])
  else leaves.map fun leaf => if leaf.1 = [field.1] then (field.2, leaf.2) else leaf

/-- Whether a value is one of the tracer's labels. -/
def isLabel (leaf : Place × Value) : Bool :=
  leaf.1.head? == some labelsName && 1 < leaf.1.length

/-- The values that a line has from the fields of its record. Null is not written, and what cannot
be shown cannot be written. -/
def fieldLeaves? (fields : Fields) : Option Leaves := do
  let found ← leaves? (fields.filter fun field => !unwrittenNames.contains field.1)
  let settled := tracerPlaces.foldl settle found
  let kept := settled.filter fun leaf => !isLabel leaf && !leaf.2.isNull
  if kept.all (·.2.shown?.isSome) then some kept else none

/-- The line that a record is written as. A record whose fields are in each other's way or in that
of the line's own values, or hold a value that cannot be written, is not written at all. -/
def written? (record : Record) : Option Line := do
  if record.fields.any (·.1 == messageName) then none
  else
    let extra ← fieldLeaves? (record.service.toList.map Service.field ++ record.fields)
    let document := writableFields (← document? (ownLeaves record ++ extra))
    return ⟨record.level, record.logger, (document.lookup "message").getD (.text record.message),
      document.lookup "service", document.filter fun field => !ownNames.contains field.1⟩

/-- The line that a handler writes for a record, if the record is kept. -/
def ofRecord? (record : Record) (handler : Handler) : Option Line :=
  let (kept, passed) := handler.pass record
  if kept then written? passed else none

/-- **A line shows no more of a record than the filter of its handler lets pass.** -/
theorem ofRecord?_of_pass {record other : Record} {handler : Handler}
    (same : handler.pass record = handler.pass other) :
    ofRecord? record handler = ofRecord? other handler := by
  unfold ofRecord?
  rw [same]

end Line

end SignIn.Log

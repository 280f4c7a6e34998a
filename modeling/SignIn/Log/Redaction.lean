/-
**Redaction.**

Before an entry is written, the fields whose names are known to carry secrets lose their values,
unless there is nothing to hide:

* `redact_keys`: redaction neither adds a field nor takes one away nor moves one.
-/

import SignIn.Log

namespace SignIn.Log

/-- The names of the fields that carry secrets. -/
def sensitiveKeys : List String :=
  ["auth_token", "code_verifier", "oauth_state", "password", "refresh_token"]

/-- What stands in place of a secret. -/
def redacted : Value := .text "***"

/-- Hides the value of a field that has a given name; a value that counts as false stays. -/
def redactField (key : String) (field : String × Value) : String × Value :=
  if field.1 = key ∧ field.2.truthy then (field.1, redacted) else field

/-- Hides the value of the field with a name. -/
def redactKey (key : String) (fields : Fields) : Fields :=
  fields.map (redactField key)

/-- Hides the values of the fields with given names, one name after the other. -/
def redactKeys (keys : List String) (fields : Fields) : Fields :=
  keys.foldl (fun hidden key => redactKey key hidden) fields

/-- Hides the secrets among fields. -/
def redact (fields : Fields) : Fields :=
  redactKeys sensitiveKeys fields

theorem redactKeys_keys (keys : List String) (fields : Fields) :
    (redactKeys keys fields).map Prod.fst = fields.map Prod.fst := by
  induction keys generalizing fields with
  | nil => rfl
  | cons key rest ih =>
    have step : (redactKey key fields).map Prod.fst = fields.map Prod.fst := by
      rw [redactKey, List.map_map]
      refine List.map_congr_left fun field _ => ?_
      simp only [Function.comp, redactField]
      split <;> rfl
    exact (ih _).trans step

/-- **Redaction neither adds a field nor takes one away nor moves one.** -/
theorem redact_keys (fields : Fields) : (redact fields).map Prod.fst = fields.map Prod.fst :=
  redactKeys_keys sensitiveKeys fields

end SignIn.Log

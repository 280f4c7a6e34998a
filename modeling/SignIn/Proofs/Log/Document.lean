/-
**Which documents can be made, and what stands in them.**

Two places are apart if neither lies on the way to the other (`Place.Apart`). Values are put into a
document one after the other; each needs a place that nothing stands in the way of (`Free`):

* `exists_insert?_iff`, `free_iff_of_insert?`: a value can be put exactly at a free place, and then just
  the places apart from it stay free;
* `valueAt?_of_insert?`, `valueAt?_of_apart`: it stands there afterwards, and what stands apart from it
  stays;
* `exists_foldlM_insert?_iff`: values can be added to a document exactly if their places are free in it
  and apart;
* `valueAt?_of_mem`: each of them stands at its place then.
-/

import Mathlib.Data.List.Basic
import SignIn.Log.Document

namespace SignIn.Log

/-- Two places are apart: neither is the other, nor lies on the way to it. -/
def Place.Apart (place other : Place) : Prop :=
  ¬ place <+: other ∧ ¬ other <+: place

/-- Nothing stands in the way of a place in an object: the first name of the place is new there, or
that of an object with nothing in the way of the rest. -/
inductive Free : Place → Fields → Prop where
  | new {name : String} {rest : Place} {fields : Fields} (absent : fields.lookup name = none) :
      Free (name :: rest) fields
  | within {name : String} {rest : Place} {fields inner : Fields}
      (object : fields.lookup name = some (.record inner)) (free : Free rest inner) :
      Free (name :: rest) fields

/-- What stands at a place of a value. -/
def valueAt? : Place → Value → Option Value
  | [], value => some value
  | name :: rest, .record fields => (fields.lookup name).bind (valueAt? rest)
  | _ :: _, _ => none

section Places

variable {place other : Place} {name next : String} {rest : Place} {fields inner : Fields}

theorem Place.Apart.symm (apart : Place.Apart place other) : Place.Apart other place :=
  ⟨apart.2, apart.1⟩

theorem Place.Apart.ne_nil (apart : Place.Apart place other) : place ≠ [] := by
  rintro rfl
  exact apart.1 List.nil_prefix

theorem Place.apart_cons_self_iff :
    Place.Apart (name :: place) (name :: other) ↔ Place.Apart place other := by
  unfold Place.Apart
  rw [List.cons_prefix_cons, List.cons_prefix_cons, and_iff_right rfl, and_iff_right rfl]

theorem Place.apart_cons_of_ne (differ : next ≠ name) :
    Place.Apart (next :: place) (name :: other) := by
  unfold Place.Apart
  rw [List.cons_prefix_cons, List.cons_prefix_cons]
  exact ⟨fun both => differ both.1, fun both => differ both.1.symm⟩

theorem not_free_nil : ¬ Free [] fields := nofun

theorem free_empty_iff : Free place [] ↔ place ≠ [] := by
  cases place with
  | nil => exact iff_of_false not_free_nil fun differ => differ rfl
  | cons name rest => exact iff_of_true (.new rfl) nofun

theorem free_cons_iff (object : fields.lookup name = some (.record inner)) :
    Free (name :: rest) fields ↔ Free rest inner := by
  constructor
  · intro free
    cases free with
    | new absent =>
      rw [object] at absent
      cases absent
    | within found free =>
      rw [object] at found
      cases found
      exact free
  · exact .within object

theorem free_cons_congr {others : Fields} (same : fields.lookup name = others.lookup name) :
    Free (name :: rest) fields ↔ Free (name :: rest) others := by
  constructor <;>
  · intro free
    cases free with
    | new absent => exact .new (by simpa only [same] using absent)
    | within object free => exact .within (by simpa only [same] using object) free

theorem valueAt?_singleton (name : String) (fields : Fields) :
    valueAt? [name] (.record fields) = fields.lookup name := by
  unfold valueAt?
  cases fields.lookup name <;> rfl

end Places

/-! ### One value -/

section Insertion

variable {value : Value} {place other : Place} {name next : String} {rest : Place}
  {fields grown : Fields}

theorem lookup_concat_self (absent : fields.lookup name = none) :
    (fields ++ [(name, value)]).lookup name = some value := by
  rw [List.lookup_append, absent, List.lookup_cons_self, Option.none_or]

theorem lookup_concat_of_ne (differ : next ≠ name) :
    (fields ++ [(name, value)]).lookup next = fields.lookup next := by
  rw [List.lookup_append, List.lookup_cons, beq_false_of_ne differ]
  exact Option.or_none

theorem lookup_replaceField_self (found : (fields.lookup name).isSome = true) :
    (replaceField name value fields).lookup name = some value := by
  induction fields with
  | nil => cases found
  | cons field fields ih =>
    obtain ⟨key, former⟩ := field
    show List.lookup name ((if key = name then (name, value) else (key, former)) ::
      replaceField name value fields) = _
    by_cases same : key = name
    · rw [if_pos same, List.lookup_cons_self]
    · rw [if_neg same, List.lookup_cons, beq_false_of_ne (Ne.symm same)]
      rw [List.lookup_cons, beq_false_of_ne (Ne.symm same)] at found
      exact ih found

theorem lookup_replaceField_of_ne (differ : next ≠ name) :
    (replaceField name value fields).lookup next = fields.lookup next := by
  induction fields with
  | nil => rfl
  | cons field fields ih =>
    obtain ⟨key, former⟩ := field
    show List.lookup next ((if key = name then (name, value) else (key, former)) ::
      replaceField name value fields) = _
    by_cases same : key = name
    · subst same
      rw [if_pos rfl, List.lookup_cons, List.lookup_cons, beq_false_of_ne differ]
      exact ih
    · rw [if_neg same, List.lookup_cons, List.lookup_cons, ih]

/-- **What an insertion does.** Other names are as before. The first name of the place becomes that of
the value, if the place ends there; else the value goes on into its object, a new one if there was
none. -/
theorem insert?_cases (inserted : insert? value (name :: rest) fields = some grown) :
    (∀ other, other ≠ name → grown.lookup other = fields.lookup other) ∧
      ((rest = [] ∧ fields.lookup name = none ∧ grown.lookup name = some value) ∨
        ∃ inner larger, (fields.lookup name = none ∧ inner = [] ∨
            fields.lookup name = some (.record inner)) ∧
          insert? value rest inner = some larger ∧
          grown.lookup name = some (.record larger)) := by
  cases rest with
  | nil =>
    rw [insert?_singleton] at inserted
    split at inserted
    · cases inserted
    · rename_i free
      cases inserted
      have absent := Option.not_isSome_iff_eq_none.mp free
      exact ⟨fun other => lookup_concat_of_ne, .inl ⟨rfl, absent, lookup_concat_self absent⟩⟩
  | cons next rest =>
    unfold insert? at inserted
    split at inserted
    · rename_i absent
      obtain ⟨larger, deeper, rfl⟩ := Option.map_eq_some_iff.mp inserted
      exact ⟨fun other => lookup_concat_of_ne,
        .inr ⟨[], larger, .inl ⟨absent, rfl⟩, deeper, lookup_concat_self absent⟩⟩
    · rename_i inner object
      obtain ⟨larger, deeper, rfl⟩ := Option.map_eq_some_iff.mp inserted
      have found : (fields.lookup name).isSome = true := by rw [object]; rfl
      exact ⟨fun other => lookup_replaceField_of_ne,
        .inr ⟨inner, larger, .inr object, deeper, lookup_replaceField_self found⟩⟩
    · cases inserted

/-- **A value can be put exactly at a free place.** -/
theorem exists_insert?_iff :
    (∃ grown, insert? value place fields = some grown) ↔ Free place fields := by
  induction place generalizing fields with
  | nil => exact iff_of_false nofun not_free_nil
  | cons name rest ih =>
    constructor
    · rintro ⟨grown, inserted⟩
      obtain ⟨-, ⟨-, absent, -⟩ | ⟨inner, larger, ⟨absent, -⟩ | object, deeper, -⟩⟩ :=
        insert?_cases inserted
      · exact .new absent
      · exact .new absent
      · exact .within object (ih.mp ⟨larger, deeper⟩)
    · intro free
      cases rest with
      | nil =>
        cases free with
        | new absent => exact ⟨_, by rw [insert?_singleton, absent]; rfl⟩
        | within object free => exact absurd free not_free_nil
      | cons next rest =>
        unfold insert?
        cases free with
        | new absent =>
          obtain ⟨larger, deeper⟩ := ih.mpr (free_empty_iff.mpr (List.cons_ne_nil next rest))
          exact ⟨_, by rw [absent, deeper]; rfl⟩
        | within object free =>
          obtain ⟨larger, deeper⟩ := ih.mpr free
          exact ⟨replaceField name (.record larger) fields, by simp only [object, deeper]; rfl⟩

/-- **The places apart from that of a value stay free, and no others**, unless the value is an
object. -/
theorem free_iff_of_insert? (plain : ∀ inner, value ≠ .record inner)
    (inserted : insert? value place fields = some grown) :
    Free other grown ↔ Free other fields ∧ Place.Apart other place := by
  induction place generalizing other fields grown with
  | nil => cases inserted
  | cons name rest ih =>
    obtain ⟨others, here⟩ := insert?_cases inserted
    cases other with
    | nil => exact iff_of_false not_free_nil fun both => not_free_nil both.1
    | cons next other =>
      by_cases differ : next ≠ name
      · rw [free_cons_congr (others next differ)]
        exact (and_iff_left (Place.apart_cons_of_ne differ)).symm
      obtain rfl := not_not.mp differ
      rw [Place.apart_cons_self_iff]
      rcases here with ⟨rfl, absent, now⟩ | ⟨inner, larger, before, deeper, now⟩
      · refine iff_of_false (fun free => ?_) fun both => both.2.2 List.nil_prefix
        cases free with
        | new absent => simp [now] at absent
        | within object free =>
          rw [now] at object
          exact plain _ (Option.some.inj object)
      · rw [free_cons_iff now, ih deeper]
        rcases before with ⟨absent, rfl⟩ | object
        · rw [free_empty_iff]
          exact and_congr_left fun apart => iff_of_true apart.ne_nil (.new absent)
        · rw [free_cons_iff object]

/-- **A value stands where it was put.** -/
theorem valueAt?_of_insert? (inserted : insert? value place fields = some grown) :
    valueAt? place (.record grown) = some value := by
  induction place generalizing fields grown with
  | nil => cases inserted
  | cons name rest ih =>
    unfold valueAt?
    rcases (insert?_cases inserted).2 with ⟨rfl, -, now⟩ | ⟨inner, larger, -, deeper, now⟩
    · rw [now]
      rfl
    · rw [now]
      exact ih deeper

/-- **What stands apart from it stays.** -/
theorem valueAt?_of_apart (inserted : insert? value place fields = some grown)
    (apart : Place.Apart other place) :
    valueAt? other (.record grown) = valueAt? other (.record fields) := by
  induction place generalizing other fields grown with
  | nil => cases inserted
  | cons name rest ih =>
    obtain ⟨others, here⟩ := insert?_cases inserted
    cases other with
    | nil => exact absurd rfl apart.ne_nil
    | cons next other =>
      unfold valueAt?
      by_cases differ : next ≠ name
      · rw [others next differ]
      obtain rfl := not_not.mp differ
      rw [Place.apart_cons_self_iff] at apart
      rcases here with ⟨rfl, -, -⟩ | ⟨inner, larger, before, deeper, now⟩
      · exact absurd rfl apart.symm.ne_nil
      · rw [now]
        refine (ih deeper apart).trans ?_
        rcases before with ⟨absent, rfl⟩ | object
        · rw [absent]
          obtain ⟨first, others, rfl⟩ := List.exists_cons_of_ne_nil apart.ne_nil
          rfl
        · rw [object]
          rfl

end Insertion

/-! ### Many values -/

section Documents

variable {leaves : Leaves} {leaf : Place × Value} {place : Place} {fields document : Fields}

/-- **Values can be added to an object exactly if their places are free in it and apart.** -/
theorem exists_foldlM_insert?_iff (plain : ∀ leaf ∈ leaves, ∀ inner, leaf.2 ≠ .record inner) :
    (∃ document, leaves.foldlM (fun fields leaf => insert? leaf.2 leaf.1 fields) fields =
        some document) ↔
      (∀ leaf ∈ leaves, Free leaf.1 fields) ∧
        leaves.Pairwise fun leaf other => Place.Apart leaf.1 other.1 := by
  induction leaves generalizing fields with
  | nil => exact iff_of_true ⟨fields, rfl⟩ ⟨nofun, .nil⟩
  | cons leaf leaves ih =>
    obtain ⟨first, others⟩ := List.forall_mem_cons.mp plain
    rw [List.forall_mem_cons, List.pairwise_cons]
    constructor
    · rintro ⟨document, made⟩
      obtain ⟨grown, inserted, rest⟩ := Option.bind_eq_some_iff.mp made
      obtain ⟨free, apart⟩ := (ih others).mp ⟨document, rest⟩
      have both := fun other inside => (free_iff_of_insert? first inserted).mp (free other inside)
      exact ⟨⟨exists_insert?_iff.mp ⟨grown, inserted⟩, fun other inside => (both other inside).1⟩,
        fun other inside => (both other inside).2.symm, apart⟩
    · rintro ⟨⟨free, freeToo⟩, aside, apart⟩
      obtain ⟨grown, inserted⟩ := exists_insert?_iff.mpr free
      obtain ⟨document, rest⟩ := (ih others).mpr ⟨fun other inside =>
        (free_iff_of_insert? first inserted).mpr ⟨freeToo other inside, (aside other inside).symm⟩,
        apart⟩
      exact ⟨document, Option.bind_eq_some_iff.mpr ⟨grown, inserted, rest⟩⟩

/-- What stands apart from all of them stays. -/
theorem valueAt?_of_forall_apart
    (made : leaves.foldlM (fun fields leaf => insert? leaf.2 leaf.1 fields) fields = some document)
    (apart : ∀ leaf ∈ leaves, Place.Apart place leaf.1) :
    valueAt? place (.record document) = valueAt? place (.record fields) := by
  induction leaves generalizing fields with
  | nil =>
    cases made
    rfl
  | cons leaf leaves ih =>
    obtain ⟨grown, inserted, rest⟩ := Option.bind_eq_some_iff.mp made
    obtain ⟨first, others⟩ := List.forall_mem_cons.mp apart
    exact (ih rest others).trans (valueAt?_of_apart inserted first)

/-- **Each of them stands at its place then.** -/
theorem valueAt?_of_mem
    (made : leaves.foldlM (fun fields leaf => insert? leaf.2 leaf.1 fields) fields = some document)
    (apart : leaves.Pairwise fun leaf other => Place.Apart leaf.1 other.1) (inside : leaf ∈ leaves) :
    valueAt? leaf.1 (.record document) = some leaf.2 := by
  induction leaves generalizing fields with
  | nil => cases inside
  | cons first leaves ih =>
    obtain ⟨grown, inserted, rest⟩ := Option.bind_eq_some_iff.mp made
    obtain ⟨aside, apart⟩ := List.pairwise_cons.mp apart
    rcases List.mem_cons.mp inside with rfl | later
    · exact (valueAt?_of_forall_apart rest aside).trans (valueAt?_of_insert? inserted)
    · exact ih rest apart later

end Documents

end SignIn.Log

/-
**Ordered maps as functions.**

A map is known by its keys and by what it says about each of them:

* `mem_keys_iff`: a key is among the keys exactly when it has a value;
* `get?_eq_some_iff`: the entries are the keys with their values;
* `map_some_values`: the values stand in the order of their keys;
* `eq_of_get?`: two maps with the same keys in the same order and the same values are equal;
* `get?_insertAll`: of several entries inserted under one key the last one counts;
* `get?_ofList_map`: changing the values changes what is said about each key.
-/

import SignIn.OrderedMap

namespace SignIn.OrderedMap

variable {α β : Type} [DecidableEq α]

@[simp] theorem get?_empty (key : α) : (empty : OrderedMap α β).get? key = none := rfl

theorem find?_of_mem {entries : List (α × β)} (nodup : (entries.map Prod.fst).Nodup)
    {entry : α × β} (member : entry ∈ entries) :
    (entries.find? fun other => other.1 = entry.1) = some entry := by
  induction entries with
  | nil => cases member
  | cons first rest ih =>
    rw [List.map_cons, List.nodup_cons] at nodup
    rcases List.mem_cons.mp member with rfl | later
    · simp
    · have differ : first.1 ≠ entry.1 := fun same =>
        nodup.1 (same ▸ List.mem_map_of_mem later)
      rw [List.find?_cons_of_neg (by simpa using differ)]
      exact ih nodup.2 later

/-- **The entries are the keys with their values.** -/
theorem get?_eq_some_iff (map : OrderedMap α β) (key : α) (value : β) :
    map.get? key = some value ↔ (key, value) ∈ map.entries := by
  unfold get?
  constructor
  · intro found
    obtain ⟨entry, first, rfl⟩ := Option.map_eq_some_iff.mp found
    have same : entry.1 = key := by simpa using List.find?_some first
    rw [← same]
    exact List.mem_of_find?_eq_some first
  · intro member
    rw [find?_of_mem map.nodup_keys member]
    rfl

/-- **A key is among the keys exactly when it has a value.** -/
theorem mem_keys_iff (map : OrderedMap α β) (key : α) :
    key ∈ map.keys ↔ (map.get? key).isSome = true := by
  rw [Option.isSome_iff_exists]
  constructor
  · intro member
    obtain ⟨entry, inside, rfl⟩ := List.mem_map.mp member
    exact ⟨entry.2, (map.get?_eq_some_iff _ _).mpr inside⟩
  · rintro ⟨value, found⟩
    exact List.mem_map_of_mem ((map.get?_eq_some_iff key value).mp found)

theorem contains_eq (map : OrderedMap α β) (key : α) :
    map.contains key = (map.get? key).isSome := by
  rw [Bool.eq_iff_iff, ← mem_keys_iff]
  unfold contains
  exact decide_eq_true_iff

/-- **The values stand in the order of their keys.** -/
theorem map_some_values (map : OrderedMap α β) : map.values.map some = map.keys.map map.get? := by
  unfold values keys
  rw [List.map_map, List.map_map]
  refine List.map_congr_left fun entry member => ?_
  exact ((map.get?_eq_some_iff entry.1 entry.2).mpr member).symm

/-- **Two maps with the same keys in the same order and the same values are equal.** -/
theorem eq_of_get? {first second : OrderedMap α β} (keys : first.keys = second.keys)
    (values : ∀ key, first.get? key = second.get? key) : first = second := by
  have valuesEq : first.values = second.values := by
    have some_values : first.values.map some = second.values.map some := by
      rw [map_some_values, map_some_values, keys]
      exact List.map_congr_left fun key _ => values key
    exact (List.map_inj_right fun _ _ => Option.some.inj).mp some_values
  have entriesEq : first.entries = second.entries :=
    (List.zip_of_prod keys valuesEq).trans (List.zip_of_prod rfl rfl).symm
  obtain ⟨entries, _⟩ := first
  cases entriesEq
  rfl

theorem mem_values_iff (map : OrderedMap α β) (value : β) :
    value ∈ map.values ↔ ∃ key, map.get? key = some value := by
  constructor
  · intro member
    obtain ⟨entry, inside, rfl⟩ := List.mem_map.mp member
    exact ⟨entry.1, (map.get?_eq_some_iff _ _).mpr inside⟩
  · rintro ⟨key, found⟩
    exact List.mem_map_of_mem ((map.get?_eq_some_iff key value).mp found)

/-- **Of several entries inserted under one key the last one counts.** -/
theorem get?_insertAll (map : OrderedMap α β) (entries : List (α × β)) (key : α) :
    (map.insertAll entries).get? key =
      ((entries.findRev? fun entry => entry.1 = key).map Prod.snd).or (map.get? key) := by
  unfold insertAll
  induction entries generalizing map with
  | nil => rfl
  | cons entry rest ih =>
    rw [List.foldl_cons, ih, get?_insert, List.findRev?_eq_find?_reverse,
      List.findRev?_eq_find?_reverse, List.reverse_cons, List.find?_append]
    cases List.find? (fun other => decide (other.1 = key)) rest.reverse with
    | some later => rfl
    | none =>
      by_cases same : entry.1 = key
      · simp [same]
      · have differ : key ≠ entry.1 := fun equal => same equal.symm
        simp [same, differ]

/-- A map made from entries with distinct keys has exactly these entries. -/
theorem get?_ofList_eq_some_iff {entries : List (α × β)} (nodup : (entries.map Prod.fst).Nodup)
    (key : α) (value : β) :
    (ofList entries).get? key = some value ↔ (key, value) ∈ entries := by
  unfold ofList
  rw [get?_insertAll, get?_empty, Option.or_none, List.findRev?_eq_find?_reverse]
  constructor
  · intro found
    obtain ⟨entry, last, rfl⟩ := Option.map_eq_some_iff.mp found
    have same : entry.1 = key := by simpa using List.find?_some last
    rw [← same]
    exact List.mem_reverse.mp (List.mem_of_find?_eq_some last)
  · intro member
    have reversed : (entries.reverse.map Prod.fst).Nodup :=
      ((List.reverse_perm entries).map Prod.fst).nodup_iff.mpr nodup
    rw [find?_of_mem reversed (List.mem_reverse.mpr member)]
    rfl

/-- Changing the values of a map changes what it says about each key. -/
theorem get?_ofList_map {γ : Type} (map : OrderedMap α β) (change : β → γ) (key : α) :
    (ofList (map.entries.map fun entry => (entry.1, change entry.2))).get? key =
      (map.get? key).map change := by
  have nodup : ((map.entries.map fun entry => (entry.1, change entry.2)).map Prod.fst).Nodup := by
    rw [List.map_map]
    exact map.nodup_keys
  refine Option.ext fun value => ?_
  rw [get?_ofList_eq_some_iff nodup, List.mem_map, Option.map_eq_some_iff]
  constructor
  · rintro ⟨entry, member, same⟩
    cases same
    exact ⟨entry.2, (map.get?_eq_some_iff _ _).mpr member, rfl⟩
  · rintro ⟨old, found, rfl⟩
    exact ⟨(key, old), (map.get?_eq_some_iff _ _).mp found, rfl⟩

end SignIn.OrderedMap

/-
**Maps that remember the order of insertion.**

Each key has one value and one place; a key that is inserted again keeps its place and takes the
new value:

* `keys_insert`: inserting adds a new key at the end and moves none;
* `get?_insert`: the inserted key has the new value, every other key its old one.
-/

namespace SignIn

variable {α β : Type} [DecidableEq α]

namespace OrderedMap

/-- Puts a value under a key: in the key's place if it has one, else at the end. -/
def insertEntry : List (α × β) → α → β → List (α × β)
  | [], key, value => [(key, value)]
  | entry :: rest, key, value =>
    if entry.1 = key then (key, value) :: rest else entry :: insertEntry rest key value

theorem keys_insertEntry (entries : List (α × β)) (key : α) (value : β) :
    (insertEntry entries key value).map Prod.fst =
      if key ∈ entries.map Prod.fst then entries.map Prod.fst
      else entries.map Prod.fst ++ [key] := by
  induction entries with
  | nil => simp [insertEntry]
  | cons entry rest ih =>
    by_cases same : entry.1 = key
    · simp [insertEntry, same]
    · have differ : key ≠ entry.1 := fun equal => same equal.symm
      simp only [insertEntry, same, ↓reduceIte, List.map_cons, ih, List.mem_cons, differ,
        false_or]
      split <;> simp

theorem nodup_insertEntry {entries : List (α × β)} (key : α) (value : β)
    (nodup : (entries.map Prod.fst).Nodup) :
    ((insertEntry entries key value).map Prod.fst).Nodup := by
  rw [keys_insertEntry]
  split
  · exact nodup
  · rename_i absent
    rw [List.nodup_append]
    refine ⟨nodup, by simp, ?_⟩
    intro first member second last equal
    simp only [List.mem_singleton] at last
    exact absent (last ▸ equal ▸ member)

end OrderedMap

/-- A finite map with its keys in order of first insertion. -/
structure OrderedMap (α β : Type) where
  entries : List (α × β)
  nodup_keys : (entries.map Prod.fst).Nodup

namespace OrderedMap

/-- The map without keys. -/
def empty : OrderedMap α β := ⟨[], List.nodup_nil⟩

/-- The keys in order of first insertion. -/
def keys (map : OrderedMap α β) : List α := map.entries.map Prod.fst

/-- The values in the order of their keys. -/
def values (map : OrderedMap α β) : List β := map.entries.map Prod.snd

/-- The value of a key. -/
def get? (map : OrderedMap α β) (key : α) : Option β :=
  (map.entries.find? fun entry => entry.1 = key).map Prod.snd

/-- Whether a key has a value. -/
def contains (map : OrderedMap α β) (key : α) : Bool :=
  decide (key ∈ map.keys)

/-- Puts a value under a key: in the key's place if it has one, else at the end. -/
def insert (map : OrderedMap α β) (key : α) (value : β) : OrderedMap α β :=
  ⟨insertEntry map.entries key value, nodup_insertEntry key value map.nodup_keys⟩

/-- The map after inserting entries one after the other. -/
def insertAll (map : OrderedMap α β) (entries : List (α × β)) : OrderedMap α β :=
  entries.foldl (fun result entry => result.insert entry.1 entry.2) map

/-- The map of entries inserted one after the other. -/
def ofList (entries : List (α × β)) : OrderedMap α β :=
  insertAll empty entries

/-- **Inserting adds a new key at the end and moves none.** -/
theorem keys_insert (map : OrderedMap α β) (key : α) (value : β) :
    (map.insert key value).keys = if key ∈ map.keys then map.keys else map.keys ++ [key] :=
  keys_insertEntry map.entries key value

/-- **The inserted key has the new value, every other key its old one.** -/
theorem get?_insert (map : OrderedMap α β) (key other : α) (value : β) :
    (map.insert key value).get? other = if other = key then some value else map.get? other := by
  unfold get? insert
  simp only
  induction map.entries with
  | nil =>
    by_cases same : other = key
    · simp [insertEntry, same]
    · have differ : key ≠ other := fun equal => same equal.symm
      simp [insertEntry, same, differ]
  | cons entry rest ih =>
    by_cases found : entry.1 = key
    · by_cases same : other = key
      · simp [insertEntry, found, same]
      · have differ : key ≠ other := fun equal => same equal.symm
        simp [insertEntry, found, same, differ]
    · by_cases here : entry.1 = other
      · have differ : other ≠ key := fun equal => found (here.trans equal)
        simp [insertEntry, here, differ]
      · simp [insertEntry, found, here, ih]

end OrderedMap

end SignIn

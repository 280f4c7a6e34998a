/-
**Signing out.**

Signing out removes the reserved names one after the other. Each of them may be absent, may have
come with the request, may have been added since, or both, and what was added may be a removal
already:

* `get?_pending_removeNamed`, `keys_pending_removeNamed`: one removal changes what is added under
  its name, if the name is held, and nothing else;
* `get?_pending_of_mem`, `get?_pending_of_not_mem`, `keys_pending_removeEach`: so after removals in
  turn each name that is held is overwritten, no other name is touched, and only the names that came
  with the request and were not overwritten before get a new place, at the end;
* `removeReserved_removeReserved`: signing out twice is signing out once;
* `sign_out_overwrites_reserved`: all of it, for the jar after any run.

No removal changes which names are held (`contains_removeNamed`), so each removal finds what it would
have found as the first one.
-/

import Mathlib.Data.List.Nodup
import SignIn.Proofs.Cookie.Reading
import SignIn.Proofs.Cookie.Writing
import SignIn.Proofs.Http.Header

namespace SignIn

namespace Reserved

theorem mem_all (reserved : Reserved) : reserved ∈ all := by
  cases reserved <;> decide

theorem nodup_all : all.Nodup := by decide

theorem key_injective {first second : Reserved} (same : first.key = second.key) :
    first = second := by
  have distinct : (all.map key).Nodup := by decide
  exact List.inj_on_of_nodup_map distinct (mem_all first) (mem_all second) same

end Reserved

namespace Jar

variable {jar : Jar} {key : String} {named : key ≠ ""}

/-! ### One removal -/

@[simp] theorem incoming_removeNamed : (jar.removeNamed key named).incoming = jar.incoming := by
  unfold removeNamed
  split <;> rfl

/-- What is added under the removed name is the removal, if the name is held; nothing else changes. -/
theorem get?_pending_removeNamed (other : String) :
    (jar.removeNamed key named).pending.get? other =
      if other = key ∧ jar.contains key = true then some (removal key named)
      else jar.pending.get? other := by
  unfold removeNamed
  by_cases held : jar.contains key = true
  · rw [if_pos held]
    refine (OrderedMap.get?_insert jar.pending key other (removal key named)).trans ?_
    simp only [held, and_true]
  · rw [if_neg held, if_neg fun both => held both.2]

/-- Whether a name came with the request and nothing was added under it. -/
def brought (jar : Jar) (key : String) : Bool :=
  jar.incoming.contains key && !jar.pending.contains key

theorem incoming_of_brought (new : jar.brought key = true) : jar.incoming.contains key = true :=
  (Bool.and_eq_true _ _ |>.mp new).1

theorem contains_of_brought (new : jar.brought key = true) : jar.contains key = true := by
  unfold contains
  rw [incoming_of_brought new, Bool.or_true]

theorem brought_removeNamed_of_ne {other : String} (differ : other ≠ key) :
    (jar.removeNamed key named).brought other = jar.brought other := by
  unfold brought
  rw [incoming_removeNamed, OrderedMap.contains_eq, OrderedMap.contains_eq,
    OrderedMap.contains_eq, get?_pending_removeNamed, if_neg fun both => differ both.1]

/-- A name that came with the request gets a place among the added ones; no place is moved. -/
theorem keys_pending_removeNamed :
    (jar.removeNamed key named).pending.keys =
      if jar.brought key then jar.pending.keys ++ [key] else jar.pending.keys := by
  unfold removeNamed brought contains
  by_cases added : key ∈ jar.pending.keys
  · have contained : jar.pending.contains key = true := decide_eq_true added
    rw [contained, Bool.true_or, if_pos rfl, Bool.not_true, Bool.and_false, if_neg Bool.false_ne_true]
    exact (OrderedMap.keys_insert _ _ _).trans (if_pos added)
  · have contained : jar.pending.contains key = false := decide_eq_false added
    rw [contained, Bool.false_or, Bool.not_false, Bool.and_true]
    by_cases came : jar.incoming.contains key = true
    · rw [if_pos came, if_pos came]
      exact (OrderedMap.keys_insert _ _ _).trans (if_neg added)
    · rw [if_neg came, if_neg came]

/-! ### Removals in turn -/

/-- Removes reserved names in turn. -/
def removeEach (jar : Jar) (reserved : List Reserved) : Jar :=
  reserved.foldl (fun rest reserved => rest.removeNamed reserved.key reserved.key_ne) jar

theorem removeEach_cons (jar : Jar) (first : Reserved) (rest : List Reserved) :
    jar.removeEach (first :: rest) = (jar.removeNamed first.key first.key_ne).removeEach rest := rfl

variable {reserved : List Reserved}

@[simp] theorem incoming_removeEach : (jar.removeEach reserved).incoming = jar.incoming := by
  induction reserved generalizing jar with
  | nil => rfl
  | cons first rest ih => rw [removeEach_cons, ih, incoming_removeNamed]

@[simp] theorem contains_removeEach : (jar.removeEach reserved).contains = jar.contains := by
  induction reserved generalizing jar with
  | nil => rfl
  | cons first rest ih => rw [removeEach_cons, ih, contains_removeNamed]

/-- **No other name is touched.** -/
theorem get?_pending_of_not_mem (others : ∀ one ∈ reserved, one.key ≠ key) :
    (jar.removeEach reserved).pending.get? key = jar.pending.get? key := by
  induction reserved generalizing jar with
  | nil => rfl
  | cons first rest ih =>
    rw [List.forall_mem_cons] at others
    rw [removeEach_cons, ih others.2, get?_pending_removeNamed,
      if_neg fun both => others.1 both.1.symm]

/-- **Each name that is held is overwritten.** -/
theorem get?_pending_of_mem {one : Reserved} (member : one ∈ reserved)
    (held : jar.contains one.key = true) :
    (jar.removeEach reserved).pending.get? one.key = some (removal one.key one.key_ne) := by
  induction reserved generalizing jar with
  | nil => cases member
  | cons first rest ih =>
    rw [removeEach_cons]
    by_cases later : one ∈ rest
    · exact ih later (by rwa [contains_removeNamed])
    · -- It is the first one, and no later removal touches its name.
      have here : one = first := (List.mem_cons.mp member).resolve_right later
      subst here
      have others : ∀ other ∈ rest, other.key ≠ one.key := by
        intro other inside same
        exact later (Reserved.key_injective same ▸ inside)
      rw [get?_pending_of_not_mem others, get?_pending_removeNamed, if_pos ⟨rfl, held⟩]

/-- **Only names that came with the request get a new place**, at the end and in turn. -/
theorem keys_pending_removeEach (nodup : reserved.Nodup) :
    (jar.removeEach reserved).pending.keys =
      jar.pending.keys ++ (reserved.filter fun one => jar.brought one.key).map Reserved.key := by
  induction reserved generalizing jar with
  | nil => exact (List.append_nil _).symm
  | cons first rest ih =>
    rw [List.nodup_cons] at nodup
    have later : (rest.filter fun one =>
        (jar.removeNamed first.key first.key_ne).brought one.key) =
          rest.filter fun one => jar.brought one.key := by
      refine List.filter_congr fun one member => brought_removeNamed_of_ne fun same => ?_
      exact nodup.1 (Reserved.key_injective same ▸ member)
    rw [removeEach_cons, ih nodup.2, later, keys_pending_removeNamed]
    by_cases new : jar.brought first.key = true
    · rw [if_pos new, List.filter_cons, if_pos new, List.map_cons, List.append_assoc,
        List.singleton_append]
    · rw [if_neg new, List.filter_cons, if_neg new]

/-! ### Signing out -/

/-- The reserved names that came with the request and have nothing added under them. -/
def broughtReserved (jar : Jar) : List Reserved :=
  Reserved.all.filter fun one => jar.brought one.key

theorem removeReserved_eq_removeEach (jar : Jar) :
    jar.removeReserved = jar.removeEach Reserved.all := rfl

theorem keys_pending_removeReserved (jar : Jar) :
    jar.removeReserved.pending.keys =
      jar.pending.keys ++ jar.broughtReserved.map Reserved.key :=
  keys_pending_removeEach Reserved.nodup_all

theorem get?_pending_eq_none (absent : jar.contains key = false) : jar.pending.get? key = none := by
  unfold contains at absent
  rw [OrderedMap.contains_eq, Bool.or_eq_false_iff] at absent
  exact Option.not_isSome_iff_eq_none.mp (ne_true_of_eq_false absent.1)

/-- What is added under a reserved name after signing out. -/
theorem get?_pending_removeReserved (one : Reserved) :
    jar.removeReserved.pending.get? one.key =
      if jar.contains one.key then some (removal one.key one.key_ne) else none := by
  rw [removeReserved_eq_removeEach]
  by_cases held : jar.contains one.key = true
  · rw [if_pos held, get?_pending_of_mem one.mem_all held]
  · rw [if_neg held]
    refine get?_pending_eq_none ?_
    rw [contains_removeEach]
    exact Bool.not_eq_true _ ▸ held

/-- No name is lost or won, and none is listed at another place. -/
theorem keys_removeReserved : jar.removeReserved.keys = jar.keys := by
  have nothingNew : (jar.broughtReserved.map Reserved.key).filter
      (fun key => !jar.incoming.contains key) = [] := by
    rw [List.filter_eq_nil_iff]
    intro key member
    obtain ⟨one, new, rfl⟩ := List.mem_map.mp member
    rw [incoming_of_brought (List.mem_filter.mp new).2]
    exact Bool.false_ne_true
  unfold keys
  rw [keys_pending_removeReserved, List.filter_append, removeReserved_eq_removeEach,
    incoming_removeEach, nothingNew, List.append_nil]

/-- After signing out, whatever came with the request under a reserved name is overwritten. -/
theorem brought_removeReserved (one : Reserved) : jar.removeReserved.brought one.key = false := by
  unfold brought
  rw [OrderedMap.contains_eq jar.removeReserved.pending, get?_pending_removeReserved]
  by_cases held : jar.contains one.key = true
  · rw [if_pos held, Option.isSome_some, Bool.not_true, Bool.and_false]
  · have absent : jar.incoming.contains one.key = false := by
      unfold contains at held
      rw [Bool.or_eq_true, not_or] at held
      exact Bool.not_eq_true _ ▸ held.2
    rw [removeReserved_eq_removeEach, incoming_removeEach, absent, Bool.false_and]

theorem eq_of_parts {first second : Jar} (incoming : first.incoming = second.incoming)
    (pending : first.pending = second.pending) : first = second := by
  obtain ⟨_, _⟩ := first
  cases incoming
  cases pending
  rfl

/-- **Signing out twice is signing out once.** -/
theorem removeReserved_removeReserved : jar.removeReserved.removeReserved = jar.removeReserved := by
  have keys : jar.removeReserved.removeReserved.pending.keys = jar.removeReserved.pending.keys := by
    have nothingNew : jar.removeReserved.broughtReserved = [] := by
      unfold broughtReserved
      rw [List.filter_eq_nil_iff]
      intro one _
      rw [brought_removeReserved]
      exact Bool.false_ne_true
    rw [keys_pending_removeReserved jar.removeReserved, nothingNew, List.map_nil, List.append_nil]
  have values : ∀ key, jar.removeReserved.removeReserved.pending.get? key =
      jar.removeReserved.pending.get? key := by
    intro key
    by_cases reserved : ∃ one : Reserved, one.key = key
    · obtain ⟨one, rfl⟩ := reserved
      rw [get?_pending_removeReserved, get?_pending_removeReserved, removeReserved_eq_removeEach,
        contains_removeEach]
    · exact get?_pending_of_not_mem fun one _ same => reserved ⟨one, same⟩
  have pending := OrderedMap.eq_of_get? keys values
  have incoming : jar.removeReserved.removeReserved.incoming = jar.removeReserved.incoming :=
    incoming_removeEach
  exact eq_of_parts incoming pending

/-- What becomes of an added cookie. -/
def overwritten (cookie : Cookie) : Cookie :=
  if cookie.key ∈ Reserved.all.map Reserved.key then removal cookie.key cookie.key_ne else cookie

theorem overwritten_of_reserved {cookie : Cookie} {one : Reserved} (same : cookie.key = one.key) :
    overwritten cookie = removal one.key one.key_ne := by
  have reserved : cookie.key ∈ Reserved.all.map Reserved.key :=
    same ▸ List.mem_map_of_mem one.mem_all
  unfold overwritten
  rw [if_pos reserved]
  simp only [same]

theorem overwritten_of_other {cookie : Cookie} (other : ∀ one : Reserved, one.key ≠ cookie.key) :
    overwritten cookie = cookie := by
  refine if_neg fun reserved => ?_
  obtain ⟨one, -, same⟩ := List.mem_map.mp reserved
  exact other one same

variable {incoming : OrderedMap String String} {history : History}

/-- An added cookie stands under its own name. -/
theorem Records.key_of_get? (records : Records incoming history jar) {cookie : Cookie}
    (found : jar.pending.get? key = some cookie) : cookie.key = key := by
  rw [records.get?_eq] at found
  exact (History.latest?_mem found).2

/-- What was added is overwritten if its name is reserved, and stays if not. -/
theorem Records.get?_overwritten (records : Records incoming history jar)
    {cookie : Cookie} (found : jar.pending.get? key = some cookie) :
    jar.removeReserved.pending.get? key = some (overwritten cookie) := by
  have named := records.key_of_get? found
  by_cases reserved : ∃ one : Reserved, one.key = key
  · obtain ⟨one, rfl⟩ := reserved
    have held : jar.contains one.key = true := by
      unfold contains
      rw [OrderedMap.contains_eq, found, Option.isSome_some, Bool.true_or]
    rw [get?_pending_removeReserved, if_pos held, overwritten_of_reserved named]
  · rw [overwritten_of_other fun one same => reserved ⟨one, same.trans named⟩, ← found]
    exact get?_pending_of_not_mem fun one _ same => reserved ⟨one, same⟩

/-- **The added cookies after signing out**: each in its place, the reserved ones overwritten, and
behind them the removals of what came with the request only. -/
theorem Records.added_removeReserved (records : Records incoming history jar) :
    jar.removeReserved.added = jar.added.map overwritten ++
      jar.broughtReserved.map fun one => removal one.key one.key_ne := by
  -- Both sides are compared under the names, in their places.
  refine (List.map_inj_right fun _ _ => Option.some.inj).mp ?_
  have old : jar.pending.keys.map jar.removeReserved.pending.get? =
      (jar.added.map overwritten).map some := by
    have values : jar.added.map some = jar.pending.keys.map jar.pending.get? :=
      jar.pending.map_some_values
    calc jar.pending.keys.map jar.removeReserved.pending.get?
        = jar.pending.keys.map fun key => (jar.pending.get? key).map overwritten := by
          refine List.map_congr_left fun key member => ?_
          obtain ⟨cookie, found⟩ :=
            Option.isSome_iff_exists.mp ((jar.pending.mem_keys_iff key).mp member)
          rw [records.get?_overwritten found, found, Option.map_some]
      _ = (jar.added.map some).map (Option.map overwritten) := by rw [values, List.map_map]; rfl
      _ = (jar.added.map overwritten).map some := by rw [List.map_map, List.map_map]; rfl
  have new : (jar.broughtReserved.map Reserved.key).map jar.removeReserved.pending.get? =
      (jar.broughtReserved.map fun one => removal one.key one.key_ne).map some := by
    rw [List.map_map, List.map_map]
    refine List.map_congr_left fun one member => ?_
    have held := contains_of_brought (List.mem_filter.mp member).2
    exact (get?_pending_removeReserved one).trans (if_pos held)
  calc jar.removeReserved.added.map some
      = jar.removeReserved.pending.keys.map jar.removeReserved.pending.get? :=
        jar.removeReserved.pending.map_some_values
    _ = _ := by rw [keys_pending_removeReserved, List.map_append, List.map_append, old, new]

/-- What signing out makes of a jar. -/
structure SignedOut (jar cleared : Jar) : Prop where
  /-- A reserved name reads as empty if it was held, and is not read if it was not. -/
  reserved_value : ∀ one : Reserved,
    cleared.get? one.key = if jar.contains one.key then some "" else none
  /-- Under a reserved name that was held stands an empty cookie of one second, with the most
  permissive attributes. -/
  reserved_added : ∀ one : Reserved, jar.contains one.key = true →
    ∃ cookie, cleared.pending.get? one.key = some cookie ∧
      cookie.toAttributes = ⟨one.key, "", Duration.oneSecond, false, .lax, true, "/"⟩
  /-- Under every other name the same is read, and the same cookie is added. -/
  other : ∀ key, (∀ one : Reserved, one.key ≠ key) →
    cleared.get? key = jar.get? key ∧ cleared.pending.get? key = jar.pending.get? key
  contains : cleared.contains = jar.contains
  keys : cleared.keys = jar.keys
  size : cleared.size = jar.size
  /-- The added cookies keep their places, and behind them come the removals of the reserved names
  that came with the request and were not added to it. -/
  added : cleared.added = jar.added.map overwritten ++
    jar.broughtReserved.map fun one => removal one.key one.key_ne
  incoming : cleared.incoming = jar.incoming

theorem Records.signedOut (records : Records incoming history jar) :
    SignedOut jar jar.removeReserved where
  reserved_value one := by
    by_cases held : jar.contains one.key = true
    · rw [if_pos held, get?, get?_pending_removeReserved, if_pos held]
      rfl
    · rw [if_neg held]
      have absent : jar.removeReserved.contains one.key ≠ true := by
        rwa [removeReserved_eq_removeEach, contains_removeEach]
      rw [contains_eq] at absent
      exact Option.not_isSome_iff_eq_none.mp absent
  reserved_added one held :=
    ⟨removal one.key one.key_ne, (get?_pending_removeReserved one).trans (if_pos held), rfl⟩
  other key others := by
    have pending : jar.removeReserved.pending.get? key = jar.pending.get? key :=
      get?_pending_of_not_mem fun one _ => others one
    refine ⟨?_, pending⟩
    unfold get?
    rw [pending, removeReserved_eq_removeEach, incoming_removeEach]
  contains := contains_removeEach
  keys := keys_removeReserved
  size := by rw [size_eq, size_eq, keys_removeReserved]
  added := records.added_removeReserved
  incoming := incoming_removeEach

/-- Where no reserved name is held, signing out changes nothing. -/
theorem removeReserved_of_absent (absent : ∀ one : Reserved, jar.contains one.key = false) :
    jar.removeReserved = jar := by
  have nothing : (Reserved.all.filter fun one => jar.contains one.key) = [] := by
    rw [List.filter_eq_nil_iff]
    exact fun one _ => ne_true_of_eq_false (absent one)
  rw [removeReserved_eq, nothing]
  rfl

/-- Where no reserved name is held, no header names one. -/
theorem Records.nameIn_ne (records : Records incoming history jar)
    (absent : ∀ one : Reserved, jar.contains one.key = false) {written : List String}
    {refusal : Option SetCookie.Refusal} (writes : Written jar.added written refusal)
    {header : String} (member : header ∈ written) (one : Reserved) :
    SetCookie.nameIn header ≠ one.key := by
  obtain ⟨cookie, inside, rendered⟩ := writes.exists_of_mem member
  obtain ⟨key, found⟩ := (jar.pending.mem_values_iff cookie).mp inside
  rw [SetCookie.nameIn_of_render rendered, records.key_of_get? found]
  rintro rfl
  rw [get?_pending_eq_none (absent one)] at found
  cases found

/-- No removal of a reserved name is refused. -/
theorem foldlM_remove (jar : Jar) :
    Reserved.all.foldlM (fun rest one => rest.remove one.key) jar = .ok jar.removeReserved := by
  have step : ∀ (rest : Jar) (one : Reserved),
      rest.remove one.key = .ok (rest.removeNamed one.key one.key_ne) :=
    fun rest one => dif_pos one.key_ne
  simp only [step]
  exact List.foldlM_pure

/-- A sign-out at the end of a run. -/
theorem afterAll_clear (policy : Policy) (jar : Jar) (operations : List Operation) :
    afterAll policy jar (operations ++ [.clear]) =
      (afterAll policy jar operations).removeReserved := by
  rw [afterAll_append]
  generalize afterAll policy jar operations = reached
  rfl

/-- **Signing out overwrites the reserved cookies that are held, and nothing else**, whatever the jar
has gone through. It is the removal of each reserved name in turn, none of which is refused; the
policy's own way only logs it, too. Done again it changes nothing. Where no reserved name is held it
changes nothing at all, and the jar writes no header that names one. -/
theorem sign_out_overwrites_reserved (policy : Policy) (incoming : OrderedMap String String)
    (operations : List Operation) :
    let jar := afterAll policy (fresh incoming) operations
    let cleared := afterAll policy (fresh incoming) (operations ++ [.clear])
    Reserved.all.foldlM (fun rest one => rest.remove one.key) jar = .ok cleared ∧
      Operation.clear.perform policy jar = ⟨cleared, .done, [policy.clearedEntry]⟩ ∧
      Operation.removeReserved.perform policy jar = ⟨cleared, .done, []⟩ ∧
      SignedOut jar cleared ∧
      afterAll policy (fresh incoming) (operations ++ [.clear, .clear]) = cleared ∧
      ((∀ one : Reserved, jar.contains one.key = false) → cleared = jar ∧
        ∃ written refusal, (∀ headers, cleared.apply headers = (headers ++ written, refusal)) ∧
          ∀ header ∈ written, ∀ one : Reserved, SetCookie.nameIn header ≠ one.key) := by
  intro jar cleared
  have records : Records incoming (History.after policy incoming operations) jar :=
    records_afterAll policy incoming operations
  have made : cleared = jar.removeReserved := afterAll_clear policy (fresh incoming) operations
  have again : afterAll policy (fresh incoming) (operations ++ [.clear, .clear]) =
      cleared.removeReserved := by
    rw [← List.singleton_append, ← List.append_assoc, afterAll_clear]
  clear_value cleared jar
  subst made
  refine ⟨foldlM_remove jar, rfl, rfl, records.signedOut, again.trans removeReserved_removeReserved,
    fun absent => ?_⟩
  rw [removeReserved_of_absent absent]
  obtain ⟨written, refusal, writes⟩ := exists_written jar.added
  exact ⟨rfl, written, refusal, writes.writeAll_eq,
    fun header member one => records.nameIn_ne absent writes member one⟩

end Jar

end SignIn

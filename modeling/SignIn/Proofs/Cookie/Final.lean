/-
**What is left of a history.**

Of the cookies put into a jar, the one put last under each name counts, and the names stand in
order of first addition (`History.final`). Nothing is left exactly if nothing was put:

* `map_key_final`: there is one final cookie to each name;
* `Jar.Records.added_eq`: the added cookies of a jar are the final ones of its history;
* `History.after_eq_nil_iff`: a run puts nothing exactly if each of its operations is idle, such as
  the removal of a name that the request did not bring.
-/

import Mathlib.Data.List.Basic
import SignIn.Proofs.Cookie.Reading

namespace SignIn

/-! ### The final cookies of a history -/

namespace History

/-- The cookie put last under each name, in order of first addition. -/
def final (history : History) : List Cookie :=
  history.names.filterMap history.latest?

theorem map_key_latest? {history : History} {key : String} (member : key ∈ history.names) :
    (history.latest? key).map (fun cookie => cookie.key) = some key := by
  obtain ⟨cookie, inside, rfl⟩ := List.mem_map.mp (List.mem_eraseDups.mp member)
  obtain ⟨last, found⟩ := exists_latest? inside
  rw [found, Option.map_some, (latest?_mem found).2]

/-- **There is one final cookie to each name.** -/
theorem map_key_final (history : History) :
    history.final.map (fun cookie => cookie.key) = history.names := by
  unfold final
  rw [List.map_filterMap]
  calc history.names.filterMap (fun key => (history.latest? key).map fun cookie => cookie.key)
      = history.names.filterMap some :=
        List.filterMap_congr fun key member => map_key_latest? member
    _ = history.names := List.filterMap_some

theorem latest?_of_mem_final {history : History} {cookie : Cookie}
    (member : cookie ∈ history.final) : history.latest? cookie.key = some cookie := by
  obtain ⟨key, _, found⟩ := List.mem_filterMap.mp member
  rwa [(latest?_mem found).2]

end History

namespace Jar

variable {incoming : OrderedMap String String} {history : History} {jar : Jar}

/-- **The added cookies of a jar are the final ones of its history.** -/
theorem Records.added_eq (records : Records incoming history jar) : jar.added = history.final := by
  have added := records.reads.added
  have kept := congrArg (List.filterMap id) added
  rwa [List.filterMap_map, List.filterMap_map, Function.id_comp, Function.id_comp,
    List.filterMap_some] at kept

/-! ### Histories in which nothing is put -/

/-- An operation puts nothing into a jar to which nothing was added yet: it only reads, it is
refused, or it removes what the request did not bring. -/
def Operation.Idle (incoming : OrderedMap String String) : Operation → Prop
  | .get _ | .contains _ | .dev | .apply => True
  | .add recipe => ∃ failure, recipe.make = .error failure
  | .remove key => key = "" ∨ key ∉ incoming.keys
  | .removeReserved | .clear => ∀ reserved : Reserved, reserved.key ∉ incoming.keys
  | .build key _ ttlMicros => key = "" ∨ ∃ failure, Cookie.lifetime ttlMicros = .error failure
  | .setSession _ _ | .authToken _ | .refreshToken _ | .oauthState _ => False

theorem holds_nil (incoming : OrderedMap String String) (key : String) :
    History.holds incoming [] key = true ↔ key ∈ incoming.keys := by
  rw [OrderedMap.mem_keys_iff]
  rfl

theorem extend_nil_iff_puts (policy : Policy) (incoming : OrderedMap String String)
    (operation : Operation) :
    operation.extend policy incoming [] = [] ↔
      ∀ cookies, operation.puts policy (History.holds incoming []) = .ok cookies →
        cookies = [] := by
  unfold Operation.extend
  cases operation.puts policy (History.holds incoming []) with
  | error _ =>
    constructor
    · intro _ _ impossible
      cases impossible
    · exact fun _ => rfl
  | ok cookies =>
    constructor
    · intro nothing _ same
      cases same
      exact nothing
    · intro nothing
      exact nothing cookies rfl

theorem puts_nothing_iff (made : Except Failure Cookie) :
    (∀ cookies, (made.map fun cookie => [cookie]) = .ok cookies → cookies = []) ↔
      ∃ failure, made = .error failure := by
  cases made with
  | ok cookie =>
    constructor
    · intro nothing
      cases nothing [cookie] rfl
    · rintro ⟨_, impossible⟩
      cases impossible
  | error failure =>
    constructor
    · exact fun _ => ⟨failure, rfl⟩
    · intro _ _ impossible
      cases impossible

theorem checked_fails_iff (attributes : Cookie.Attributes) (hidden : attributes.httpOnly = true) :
    (∃ failure, attributes.check.mapError Cookie.Defect.failure = .error failure) ↔
      attributes.key = "" := by
  have broken := check_error_iff attributes
  rw [hidden] at broken
  cases checked : attributes.check with
  | ok cookie =>
    rw [checked] at broken
    constructor
    · rintro ⟨_, impossible⟩
      cases impossible
    · intro unnamed
      obtain ⟨_, impossible⟩ := broken.mpr (.inr unnamed)
      cases impossible
  | error defect =>
    rw [checked] at broken
    constructor
    · intro _
      rcases broken.mp ⟨defect, rfl⟩ with readable | unnamed
      · cases readable
      · exact unnamed
    · exact fun _ => ⟨defect.failure, rfl⟩

/-- The reserved cookies that came with the request are those that are removed. -/
theorem removals_nil_iff (incoming : OrderedMap String String) :
    ((Reserved.all.filter fun reserved => History.holds incoming [] reserved.key).map
        fun reserved => removal reserved.key reserved.key_ne) = [] ↔
      ∀ reserved : Reserved, reserved.key ∉ incoming.keys := by
  rw [List.map_eq_nil_iff, List.filter_eq_nil_iff]
  constructor
  · intro none reserved came
    have listed : reserved ∈ Reserved.all := by cases reserved <;> decide
    exact none reserved listed ((holds_nil incoming reserved.key).mpr came)
  · intro none reserved _ held
    exact none reserved ((holds_nil incoming reserved.key).mp held)

/-- **An operation puts nothing into a jar without added cookies exactly if it is idle.** -/
theorem Operation.extend_nil_iff (policy : Policy) (incoming : OrderedMap String String)
    (operation : Operation) :
    operation.extend policy incoming [] = [] ↔ operation.Idle incoming := by
  rw [extend_nil_iff_puts]
  have silent : ∀ cookies : List Cookie,
      (∀ others, (Except.ok cookies : Except Failure (List Cookie)) = .ok others → others = []) ↔
        cookies = [] := by
    intro cookies
    exact ⟨fun nothing => nothing cookies rfl, fun nothing _ same => Except.ok.inj same ▸ nothing⟩
  cases operation with
  | get _ | contains _ | dev | apply => exact (silent []).trans (iff_true_intro rfl)
  | add recipe => exact puts_nothing_iff recipe.make
  | remove key =>
    simp only [puts, Idle]
    by_cases held : key ∈ incoming.keys
    · rw [if_pos ((holds_nil incoming key).mpr held), puts_nothing_iff]
      refine (checked_fails_iff _ rfl).trans ?_
      simp only [held, not_true_eq_false, or_false]
      exact Iff.rfl
    · rw [if_neg (mt (holds_nil incoming key).mp held), silent]
      simp only [held, not_false_eq_true, or_true]
  | removeReserved | clear => exact (silent _).trans (removals_nil_iff incoming)
  | setSession _ _ | authToken _ | refreshToken _ | oauthState _ =>
    exact (silent _).trans (iff_false_intro (List.cons_ne_nil _ _))
  | build key value ttlMicros =>
    simp only [puts, Idle]
    cases Cookie.lifetime ttlMicros with
    | error failure =>
      constructor
      · exact fun _ => .inr ⟨failure, rfl⟩
      · intro _ _ impossible
        cases impossible
    | ok ttl =>
      refine (puts_nothing_iff _).trans ((checked_fails_iff _ rfl).trans ?_)
      constructor
      · exact Or.inl
      · rintro (unnamed | ⟨_, impossible⟩)
        · exact unnamed
        · cases impossible

end Jar

theorem History.exists_extend_eq (policy : Policy) (incoming : OrderedMap String String)
    (history : History) (operation : Jar.Operation) :
    ∃ later, operation.extend policy incoming history = history ++ later := by
  unfold Jar.Operation.extend
  cases operation.puts policy (history.holds incoming) with
  | ok cookies => exact ⟨cookies, rfl⟩
  | error _ => exact ⟨[], (List.append_nil history).symm⟩

theorem History.exists_foldl_extend_eq (policy : Policy) (incoming : OrderedMap String String)
    (history : History) (operations : List Jar.Operation) :
    ∃ later,
      operations.foldl (Jar.Operation.extend policy incoming) history = history ++ later := by
  induction operations generalizing history with
  | nil => exact ⟨[], (List.append_nil history).symm⟩
  | cons operation rest ih =>
    obtain ⟨put, first⟩ := exists_extend_eq policy incoming history operation
    obtain ⟨later, others⟩ := ih (operation.extend policy incoming history)
    refine ⟨put ++ later, ?_⟩
    rw [List.foldl_cons, others, first, List.append_assoc]

/-- **A run puts nothing exactly if each of its operations is idle.** -/
theorem History.after_eq_nil_iff (policy : Policy) (incoming : OrderedMap String String)
    (operations : List Jar.Operation) :
    History.after policy incoming operations = [] ↔
      ∀ operation ∈ operations, operation.Idle incoming := by
  unfold History.after
  induction operations with
  | nil => simp
  | cons operation rest ih =>
    rw [List.foldl_cons, List.forall_mem_cons]
    refine Iff.trans ?_ (and_congr (operation.extend_nil_iff policy incoming) ih)
    constructor
    · intro nothing
      obtain ⟨later, whole⟩ :=
        exists_foldl_extend_eq policy incoming (operation.extend policy incoming []) rest
      rw [whole, List.append_eq_nil_iff] at nothing
      rw [nothing.1] at whole
      rw [nothing.1, whole, nothing.2]
      exact ⟨rfl, rfl⟩
    · rintro ⟨first, others⟩
      rw [first, others]

end SignIn

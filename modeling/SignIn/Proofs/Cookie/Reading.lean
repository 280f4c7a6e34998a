/-
**What is read from a jar.**

After every run the jar of a request is a window on its history: reads, membership, the list of
names and their number, and the added cookies are what the history says (`Reads`). Some steps of
a run may be refused:

* `Records.reads`: a jar that records a history is read as the history says;
* `puts_defect_iff`: an operation is refused for a defect exactly when it asks for one;
* `afterAll_reads_history`: both, for whole runs; a refused step changes nothing, and the run
  goes on without it.
-/

import SignIn.Proofs.Cookie.History

namespace SignIn.Jar

variable {incoming : OrderedMap String String} {history : History} {jar : Jar}

/-! ### What can be read from a jar -/

/-- What can be read from a jar, said by what came with the request and by the history. -/
structure Reads (incoming : OrderedMap String String) (history : History) (jar : Jar) :
    Prop where
  /-- A read gives the latest value, else the one that came with the request. -/
  value : ∀ key, jar.get? key =
    ((history.latest? key).map fun cookie => cookie.value).or (incoming.get? key)
  /-- A name is contained exactly when a read finds something. -/
  contains_iff : ∀ key, jar.contains key = true ↔ jar.get? key ≠ none
  /-- A name is contained exactly when it is listed. -/
  mem_iff : ∀ key, jar.contains key = true ↔ key ∈ jar.keys
  /-- No name is listed twice. -/
  nodup : jar.keys.Nodup
  /-- What came with the request is listed first, then the other names in order of first
  addition. -/
  keys : jar.keys = incoming.keys ++ history.names.filter fun key => key ∉ incoming.keys
  /-- The size is the number of names listed. -/
  size : jar.size = jar.keys.length
  /-- There is one added cookie to each name ever added, in order of first addition: the latest
  one. -/
  added : jar.added.map some = history.names.map history.latest?
  /-- What came with the request is never changed. -/
  incoming : jar.incoming = incoming

theorem eraseDups_of_nodup {names : List String} (nodup : names.Nodup) :
    names.eraseDups = names := by
  induction names with
  | nil => rfl
  | cons name rest ih =>
    rw [List.nodup_cons] at nodup
    have kept : rest.filter (fun other => !other == name) = rest := by
      refine List.filter_eq_self.mpr fun other member => ?_
      have differ : other ≠ name := fun same => nodup.1 (same ▸ member)
      simpa using differ
    rw [List.eraseDups_cons, kept, ih nodup.2]

theorem nodup_keys (jar : Jar) : jar.keys.Nodup := by
  refine List.nodup_append.mpr ⟨jar.incoming.nodup_keys, jar.pending.nodup_keys.filter _, ?_⟩
  intro first came second added same
  have fresh := (List.mem_filter.mp added).2
  rw [← same] at fresh
  simp [OrderedMap.contains, came] at fresh

theorem mem_keys_iff (jar : Jar) (key : String) : key ∈ jar.keys ↔ jar.contains key = true := by
  unfold keys contains
  rw [List.mem_append, List.mem_filter, Bool.or_eq_true]
  simp only [OrderedMap.contains, decide_eq_true_eq, Bool.not_eq_true', decide_eq_false_iff_not]
  constructor
  · rintro (came | ⟨added, -⟩)
    · exact Or.inr came
    · exact Or.inl added
  · rintro (added | came)
    · by_cases came : key ∈ jar.incoming.keys
      · exact Or.inl came
      · exact Or.inr ⟨added, came⟩
    · exact Or.inl came

theorem size_eq (jar : Jar) : jar.size = jar.keys.length := by
  have fresh : (jar.pending.keys.removeAll jar.incoming.keys).Nodup :=
    jar.pending.nodup_keys.filter _
  have listed : jar.pending.keys.removeAll jar.incoming.keys =
      jar.pending.keys.filter fun key => !jar.incoming.contains key := by
    refine List.filter_congr fun key _ => ?_
    simp [OrderedMap.contains]
  have came : jar.incoming.keys.eraseDups = jar.incoming.keys :=
    eraseDups_of_nodup jar.incoming.nodup_keys
  unfold size keys
  rw [List.eraseDups_append, came, eraseDups_of_nodup fresh, listed]

/-- **What can be read from a jar is what its history says.** -/
theorem Records.reads (records : Records incoming history jar) : Reads incoming history jar where
  value := records.get?_jar
  contains_iff key := by
    rw [contains_eq, Option.isSome_iff_ne_none]
  mem_iff key := (jar.mem_keys_iff key).symm
  nodup := jar.nodup_keys
  keys := by
    unfold Jar.keys
    rw [records.incoming_eq, records.keys_eq]
    simp [OrderedMap.contains]
  size := jar.size_eq
  added := by
    unfold Jar.added
    rw [OrderedMap.map_some_values, records.keys_eq]
    exact List.map_congr_left fun key _ => records.get?_eq key
  incoming := records.incoming_eq

/-! ### Operations that are refused -/

/-- When an operation asks for a cookie that breaks a rule: one that scripts may read, one
without a name, or the removal of the empty name, which only a request can bring. -/
def Operation.Invalid (incoming : OrderedMap String String) : Operation → Prop
  | .add recipe => ∃ ttl, Cookie.lifetime recipe.ttlMicros = .ok ttl ∧
      ((recipe.style.attributes recipe.key recipe.value ttl).httpOnly = false ∨ recipe.key = "")
  | .build key _ ttlMicros => (∃ ttl, Cookie.lifetime ttlMicros = .ok ttl) ∧ key = ""
  | .remove key => key = "" ∧ "" ∈ incoming.keys
  | _ => False

/-- Attributes make no cookie when scripts may read it or when it has no name. -/
theorem check_error_iff (attributes : Cookie.Attributes) :
    (∃ defect, attributes.check = .error defect) ↔
      attributes.httpOnly = false ∨ attributes.key = "" := by
  unfold Cookie.Attributes.check
  constructor
  · rintro ⟨defect, refused⟩
    split at refused
    · split at refused
      · cases refused
      · rename_i unnamed
        exact Or.inr (Decidable.not_not.mp unnamed)
    · rename_i readable
      exact Or.inl (Bool.not_eq_true _ ▸ readable)
  · rintro (readable | unnamed)
    · exact ⟨.scriptReadable, by rw [dif_neg (by simp [readable])]⟩
    · by_cases hidden : attributes.httpOnly = true
      · exact ⟨.emptyKey, by rw [dif_pos hidden, dif_neg (by simp [unnamed])]⟩
      · exact ⟨.scriptReadable, by rw [dif_neg hidden]⟩

theorem put_error_iff (made : Except Cookie.Defect Cookie) :
    (∃ defect : Cookie.Defect, ((made.mapError Cookie.Defect.failure).map fun cookie => [cookie]) =
      .error defect.failure) ↔ ∃ defect, made = .error defect := by
  cases made with
  | ok cookie =>
    constructor
    · rintro ⟨_, refused⟩
      cases refused
    · rintro ⟨_, refused⟩
      cases refused
  | error found => exact ⟨fun _ => ⟨found, rfl⟩, fun _ => ⟨found, rfl⟩⟩

/-- A lifetime that is no duration is no defect of a cookie. -/
theorem lifetime_error_ne {micros : Int} {failure : Failure}
    (endless : Cookie.lifetime micros = .error failure) (defect : Cookie.Defect) :
    failure ≠ defect.failure := by
  unfold Cookie.lifetime at endless
  split at endless
  · cases endless
  · cases endless
    intro same
    cases same

@[simp] theorem key_attributes (style : Cookie.Style) (key value : String) (ttl : Duration) :
    (style.attributes key value ttl).key = key := by
  cases style <;> rfl

/-- No cookie has the empty name, so only the request can have brought it. -/
theorem holds_empty_iff (incoming : OrderedMap String String) (history : History) :
    history.holds incoming "" = true ↔ "" ∈ incoming.keys := by
  have never : history.latest? "" = none := by
    cases found : history.latest? "" with
    | none => rfl
    | some cookie => exact absurd (History.latest?_mem found).2 cookie.key_ne
  unfold History.holds
  rw [never, OrderedMap.mem_keys_iff]
  rfl

/-- **An operation is refused for a defect exactly when it asks for one.** -/
theorem puts_defect_iff (policy : Policy) (incoming : OrderedMap String String)
    (history : History) (operation : Operation) :
    (∃ defect : Cookie.Defect,
      operation.puts policy (history.holds incoming) = .error defect.failure) ↔
      operation.Invalid incoming := by
  cases operation with
  | add recipe =>
    simp only [Operation.puts, Operation.Invalid, Cookie.Recipe.make]
    cases alive : Cookie.lifetime recipe.ttlMicros with
    | error failure =>
      constructor
      · rintro ⟨defect, refused⟩
        exact absurd (Except.error.inj refused) (lifetime_error_ne alive defect)
      · rintro ⟨_, living, _⟩
        cases living
    | ok ttl =>
      refine Iff.trans (put_error_iff _) (Iff.trans (check_error_iff _) ?_)
      rw [key_attributes]
      constructor
      · intro broken
        exact ⟨ttl, rfl, broken⟩
      · rintro ⟨_, living, broken⟩
        cases living
        exact broken
  | remove key =>
    simp only [Operation.puts, Operation.Invalid]
    by_cases held : history.holds incoming key = true
    · rw [if_pos held]
      refine Iff.trans (put_error_iff _) (Iff.trans (check_error_iff _) ?_)
      constructor
      · rintro (readable | unnamed)
        · cases readable
        · have empty : key = "" := unnamed
          subst empty
          exact ⟨rfl, (holds_empty_iff incoming history).mp held⟩
      · rintro ⟨empty, _⟩
        exact Or.inr empty
    · rw [if_neg held]
      constructor
      · rintro ⟨_, refused⟩
        cases refused
      · rintro ⟨rfl, came⟩
        exact absurd ((holds_empty_iff incoming history).mpr came) held
  | build key value ttlMicros =>
    simp only [Operation.puts, Operation.Invalid]
    cases alive : Cookie.lifetime ttlMicros with
    | error failure =>
      constructor
      · rintro ⟨defect, refused⟩
        exact absurd (Except.error.inj refused) (lifetime_error_ne alive defect)
      · rintro ⟨⟨_, living⟩, _⟩
        cases living
    | ok ttl =>
      refine Iff.trans (put_error_iff _) (Iff.trans (check_error_iff _) ?_)
      constructor
      · rintro (readable | unnamed)
        · cases readable
        · exact ⟨⟨ttl, rfl⟩, unnamed⟩
      · rintro ⟨_, unnamed⟩
        exact Or.inr unnamed
  | _ =>
    constructor
    · rintro ⟨_, refused⟩
      cases refused
    · intro invalid
      exact invalid.elim

/-- The answer of an operation is a failure exactly when the operation is refused. -/
theorem Records.answer_failed_iff (records : Records incoming history jar) (policy : Policy)
    (operation : Operation) (failure : Failure) :
    (operation.perform policy jar).answer = .failed failure ↔
      operation.puts policy (history.holds incoming) = .error failure := by
  have follows := perform_follows policy jar operation
  rw [records.contains_jar] at follows
  cases put : operation.puts policy (history.holds incoming) with
  | ok cookies =>
    rw [put] at follows
    constructor
    · intro failed
      exact absurd failed (follows.2 failure)
    · intro refused
      cases refused
  | error found =>
    rw [put] at follows
    rw [follows.2, Answer.failed.injEq, Except.error.injEq]

theorem perform_of_failed {policy : Policy} {jar : Jar} {operation : Operation}
    {failure : Failure} (failed : (operation.perform policy jar).answer = .failed failure) :
    (operation.perform policy jar).jar = jar := by
  have follows := perform_follows policy jar operation
  cases put : operation.puts policy jar.contains with
  | ok cookies =>
    rw [put] at follows
    exact absurd failed (follows.2 failure)
  | error found =>
    rw [put] at follows
    exact follows.1

theorem afterAll_append (policy : Policy) (jar : Jar) (first second : List Operation) :
    afterAll policy jar (first ++ second) = afterAll policy (afterAll policy jar first) second :=
  List.foldl_append

/-- **A jar refines its history over whole runs.** After every run, what is read from the jar is
what the run's history says. A step of the run is refused for a defect exactly when it asks for
one; whatever a step is refused for, it changes nothing, and the run goes on as if the step had
not been asked for. -/
theorem afterAll_reads_history (policy : Policy) (incoming : OrderedMap String String)
    (operations : List Operation) :
    Reads incoming (History.after policy incoming operations)
        (afterAll policy (fresh incoming) operations) ∧
      ∀ before operation rest, operations = before ++ operation :: rest →
        let jar := afterAll policy (fresh incoming) before
        let step := operation.perform policy jar
        ((∃ defect : Cookie.Defect, step.answer = .failed defect.failure) ↔
            operation.Invalid incoming) ∧
          ∀ failure, step.answer = .failed failure → step.jar = jar ∧
            afterAll policy (fresh incoming) operations =
              afterAll policy (fresh incoming) (before ++ rest) := by
  refine ⟨(records_afterAll policy incoming operations).reads, ?_⟩
  intro before operation rest split jar step
  have records : Records incoming (History.after policy incoming before) jar :=
    records_afterAll policy incoming before
  refine ⟨?_, fun failure failed => ?_⟩
  · rw [← puts_defect_iff policy incoming (History.after policy incoming before) operation]
    exact exists_congr fun defect => records.answer_failed_iff policy operation defect.failure
  · have unchanged : step.jar = jar := perform_of_failed failed
    refine ⟨unchanged, ?_⟩
    calc afterAll policy (fresh incoming) operations
        = afterAll policy jar (operation :: rest) := by rw [split, afterAll_append]
      _ = afterAll policy step.jar rest := rfl
      _ = afterAll policy jar rest := by rw [unchanged]
      _ = afterAll policy (fresh incoming) (before ++ rest) := by rw [afterAll_append]

/-- A request that brought the empty name: its removal is refused, and the session set
afterwards is read all the same. -/
theorem reads_history_after_refusal :
    let policy : Policy := ⟨false, Duration.oneSecond, Duration.oneSecond, Duration.oneSecond⟩
    let incoming := OrderedMap.ofList [("", "x"), ("theme", "dark")]
    let operations : List Operation := [.setSession "a" "r", .remove "", .remove "auth_token"]
    let jar := afterAll policy (fresh incoming) operations
    jar.get? "auth_token" = some "" ∧ jar.get? "refresh_token" = some "r" ∧
      jar.keys = ["", "theme", "auth_token", "refresh_token"] ∧
      jar = afterAll policy (fresh incoming) [.setSession "a" "r", .remove "auth_token"] := by
  intro policy incoming operations jar
  obtain ⟨reads, steps⟩ := afterAll_reads_history policy incoming operations
  obtain ⟨-, refused⟩ :=
    steps [.setSession "a" "r"] (.remove "") [.remove "auth_token"] rfl
  refine ⟨?_, ?_, ?_, (refused Cookie.Defect.emptyKey.failure rfl).2⟩
  · rw [reads.value]
    decide
  · rw [reads.value]
    decide
  · rw [reads.keys]
    decide

end SignIn.Jar

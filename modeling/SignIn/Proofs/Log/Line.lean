/-
**Records that are written.**

A record has no line if its fields are in each other's way or in that of the line's own values, or if a
value among them cannot be shown. Fields with none of that are said to be unobstructed, by the places of
their values alone (`Line.Unobstructed`):

* `Line.unobstructed_of_plain`: fields of different names without a point are, unless their values are
  objects;
* `Line.fieldLeaves?_of_unobstructed`: all their values but null are to be written, each at its place;
* `Line.written?_of_unobstructed`: so the record has a line, which tells all of it.
-/

import SignIn.Log.Line
import SignIn.Proofs.Log.Document
import SignIn.Proofs.Text.Split
import SignIn.Proofs.Value

namespace SignIn.Log

/-! ### The values in fields -/

section Leaves

theorem Place.ofName_ne_nil (name : String) : Place.ofName name ≠ [] := by
  unfold Place.ofName
  rw [Ne, List.map_eq_nil_iff]
  exact Text.splitOn_ne_nil '.' name.toList

theorem Place.ofName_of_not_mem {name : String} (undivided : '.' ∉ name.toList) :
    Place.ofName name = [name] := by
  unfold Place.ofName
  rw [Text.splitOn_of_not_mem undivided, List.map_singleton, String.ofList_toList]

mutual

theorem prefix_of_mem_leavesAt {place : Place} {leaf : Place × Value} :
    (value : Value) → leaf ∈ leavesAt place value →
      place <+: leaf.1 ∧ ∀ inner, leaf.2 ≠ .record inner
  | .record fields, inside => by
    obtain ⟨⟨name, longer⟩, plain⟩ := prefix_of_mem_leavesUnder fields inside
    exact ⟨(List.prefix_append place _).trans longer, plain⟩
  | .null, inside | .bool _, inside | .int _, inside | .float _, inside | .text _, inside
  | .bytes _ _, inside | .uuid _, inside | .list _, inside => by
    rw [List.mem_singleton.mp inside]
    exact ⟨List.prefix_rfl, nofun⟩

/-- **A value in the fields of an object stands below the place of one of them**, and is no object. -/
theorem prefix_of_mem_leavesUnder {place : Place} {leaf : Place × Value} :
    (fields : List (String × Value)) → leaf ∈ leavesUnder place fields →
      (∃ name, place ++ Place.ofName name <+: leaf.1) ∧ ∀ inner, leaf.2 ≠ .record inner
  | (name, value) :: rest, inside => by
    rcases List.mem_append.mp inside with here | later
    · obtain ⟨longer, plain⟩ := prefix_of_mem_leavesAt value here
      exact ⟨⟨name, longer⟩, plain⟩
    · exact prefix_of_mem_leavesUnder rest later

end

theorem ne_nil_of_mem_leavesUnder {place : Place} {fields : Fields} {leaf : Place × Value}
    (inside : leaf ∈ leavesUnder place fields) : leaf.1 ≠ [] := by
  obtain ⟨⟨name, longer⟩, -⟩ := prefix_of_mem_leavesUnder fields inside
  intro empty
  rw [empty, List.prefix_nil, List.append_eq_nil_iff] at longer
  exact Place.ofName_ne_nil name longer.2

/-- Fields of undivided names whose values are no objects are values at places of one name each. -/
theorem leavesUnder_nil_of_plain {fields : Fields}
    (undivided : ∀ field ∈ fields, '.' ∉ field.1.toList)
    (simple : ∀ field ∈ fields, ∀ inner, field.2 ≠ .record inner) :
    leavesUnder [] fields = fields.map fun field => ([field.1], field.2) := by
  induction fields with
  | nil => rfl
  | cons field rest ih =>
    obtain ⟨name, value⟩ := field
    rw [List.forall_mem_cons] at undivided simple
    have alone : leavesAt [name] value = [([name], value)] := by
      cases value with
      | record inner => exact absurd rfl (simple.1 inner)
      | _ => rfl
    rw [leavesUnder, List.nil_append, Place.ofName_of_not_mem undivided.1, alone,
      ih undivided.2 simple.2]
    rfl

end Leaves

/-! ### Values as they are written -/

section Writable

theorem lookup_writableFields (name : String) (fields : Fields) :
    (writableFields fields).lookup name = (fields.lookup name).map writable := by
  induction fields with
  | nil => rfl
  | cons field rest ih =>
    obtain ⟨key, value⟩ := field
    rw [writableFields, List.lookup_cons, List.lookup_cons]
    split
    · rfl
    · exact ih

theorem valueAt?_writable (place : Place) (value : Value) :
    valueAt? place (writable value) = (valueAt? place value).map writable := by
  induction place generalizing value with
  | nil => rfl
  | cons name rest ih =>
    cases value with
    | record fields =>
      rw [writable, valueAt?, valueAt?, lookup_writableFields]
      cases fields.lookup name with
      | none => rfl
      | some inner => exact ih inner
    | _ => rfl

theorem lookup_filter (keeps : String → Bool) {name : String} (kept : keeps name = true)
    (fields : Fields) :
    (fields.filter fun field => keeps field.1).lookup name = fields.lookup name := by
  induction fields with
  | nil => rfl
  | cons field rest ih =>
    obtain ⟨key, value⟩ := field
    by_cases here : keeps key = true
    · rw [List.filter_cons, if_pos here, List.lookup_cons, List.lookup_cons, ih]
    · have differ : name ≠ key := by
        rintro rfl
        exact here kept
      rw [List.filter_cons, if_neg here, List.lookup_cons, beq_false_of_ne differ, ih]

end Writable

namespace Line

/-! ### Fields in nobody's way -/

/-- The names at the top of a line that are its own, or used by a tracer. -/
def takenNames : List String :=
  ownNames ++ labelsName :: tracerPlaces.map Prod.fst

/-- Fields in nobody's way, all of which can be written. -/
structure Unobstructed (fields : Fields) : Prop where
  /-- None of them hides the message, or is hidden itself. -/
  named : ∀ field ∈ fields, field.1 ≠ messageName ∧ field.1 ∉ unwrittenNames
  /-- No value among them stands at or below a taken name. -/
  outside : ∀ leaf ∈ leavesUnder [] fields, ∀ name ∈ takenNames, leaf.1.head? ≠ some name
  /-- No value stands at the place of another one or on the way to it. -/
  apart : (leavesUnder [] fields).Pairwise fun leaf other => Place.Apart leaf.1 other.1
  /-- Every value can be shown. -/
  showable : ∀ leaf ∈ leavesUnder [] fields, ¬ leaf.2.Unshowable

/-- A line tells all of a record: its level, its logger and its message, the service it comes from, and
each value in its fields but null, at its place. -/
structure Tells (line : Line) (record : Record) (service : Service) : Prop where
  level : line.level = record.level
  logger : line.logger = record.logger
  message : line.message = .text record.message
  service : line.service =
    some (.record [("name", .text service.name), ("environment", .text service.environment)])
  fields : ∀ leaf ∈ leavesUnder [] record.fields, leaf.2 ≠ .null →
    valueAt? leaf.1 (.record line.fields) = some (writable leaf.2)

section Writing

variable {record : Record} {service : Service} {fields : Fields} {leaves : Leaves}

/-- **Fields of different names without a point are in nobody's way**, if their names are free and their
values are no objects and can be shown. -/
theorem unobstructed_of_plain (differ : (fields.map Prod.fst).Nodup)
    (free : ∀ field ∈ fields, field.1 ∉ messageName :: unwrittenNames ++ takenNames)
    (undivided : ∀ field ∈ fields, '.' ∉ field.1.toList)
    (simple : ∀ field ∈ fields, ∀ inner, field.2 ≠ .record inner)
    (showable : ∀ field ∈ fields, ¬ field.2.Unshowable) : Unobstructed fields where
  named field inside := by
    have both := free field inside
    rw [List.cons_append, List.mem_cons, List.mem_append, not_or, not_or] at both
    exact ⟨both.1, both.2.1⟩
  outside := by
    rw [leavesUnder_nil_of_plain undivided simple, List.forall_mem_map]
    rintro field inside name taken ⟨⟩
    exact free field inside (List.mem_append_right _ taken)
  apart := by
    rw [leavesUnder_nil_of_plain undivided simple, List.pairwise_map]
    refine (List.pairwise_map.mp differ).imp fun differ => ?_
    exact Place.apart_cons_of_ne differ
  showable := by
    rw [leavesUnder_nil_of_plain undivided simple, List.forall_mem_map]
    exact showable

/-- A tracer moves nothing where none of its fields is. -/
theorem settle_of_absent {field : String × Place} (absent : ∀ leaf ∈ leaves, leaf.1 ≠ [field.1]) :
    settle leaves field = leaves := by
  unfold settle
  split
  · exact List.filter_eq_self.mpr fun leaf inside => bne_iff_ne.mpr (absent leaf inside)
  · have same : ∀ leaf ∈ leaves,
        (if leaf.1 = [field.1] then (field.2, leaf.2) else leaf) = leaf :=
      fun leaf inside => if_neg (absent leaf inside)
    rw [List.map_congr_left same, List.map_id']

theorem foldl_settle_of_absent {places : List (String × Place)}
    (absent : ∀ field ∈ places, ∀ leaf ∈ leaves, leaf.1 ≠ [field.1]) :
    places.foldl settle leaves = leaves := by
  induction places with
  | nil => rfl
  | cons field places ih =>
    rw [List.forall_mem_cons] at absent
    rw [List.foldl_cons, settle_of_absent absent.1]
    exact ih absent.2

/-- The values in fields that are not null. -/
def filledLeaves (fields : Fields) : Leaves :=
  (leavesUnder [] fields).filter fun leaf => !leaf.2.isNull

theorem mem_filledLeaves {leaf : Place × Value} :
    leaf ∈ filledLeaves fields ↔ leaf ∈ leavesUnder [] fields ∧ leaf.2 ≠ .null := by
  unfold filledLeaves
  rw [List.mem_filter]
  refine and_congr_right fun _ => ?_
  cases leaf.2 <;> simp [Value.isNull]

/-- The values of a line's service. -/
def serviceLeaves (service : Service) : Leaves := [
  (["service", "name"], .text service.name),
  (["service", "environment"], .text service.environment)]

theorem leavesUnder_service (service : Service) (fields : Fields) :
    leavesUnder [] (service.field :: fields) = serviceLeaves service ++ leavesUnder [] fields := rfl

theorem head?_of_mem_serviceLeaves {leaf : Place × Value} (inside : leaf ∈ serviceLeaves service) :
    leaf.1.head? = some Service.fieldName ∧ leaf.1.length = 2 := by
  rcases List.mem_pair.mp inside with rfl | rfl <;> exact ⟨rfl, rfl⟩

theorem Unobstructed.exists_cons (unobstructed : Unobstructed fields) {leaf : Place × Value}
    (inside : leaf ∈ leavesUnder [] fields) :
    ∃ name rest, leaf.1 = name :: rest ∧ name ∉ takenNames := by
  obtain ⟨name, rest, placed⟩ := List.exists_cons_of_ne_nil (ne_nil_of_mem_leavesUnder inside)
  refine ⟨name, rest, placed, fun taken => unobstructed.outside leaf inside name taken ?_⟩
  rw [placed, List.head?_cons]

theorem Unobstructed.leaves?_eq (unobstructed : Unobstructed fields) (service : Service) :
    leaves? (service.field :: fields) = some (serviceLeaves service ++ leavesUnder [] fields) := by
  have differ : ((serviceLeaves service ++ leavesUnder [] fields).map Prod.fst).Nodup := by
    rw [List.map_append, List.nodup_append]
    refine ⟨by simp [serviceLeaves], List.pairwise_map.mpr ?_, ?_⟩
    · refine unobstructed.apart.imp fun apart same => ?_
      exact apart.1 (same ▸ List.prefix_rfl)
    · rintro place own other belongs rfl
      obtain ⟨stamp, stamped, rfl⟩ := List.mem_map.mp own
      obtain ⟨leaf, inside, same⟩ := List.mem_map.mp belongs
      have head := (head?_of_mem_serviceLeaves stamped).1
      exact unobstructed.outside leaf inside Service.fieldName (by decide) (same ▸ head)
  unfold leaves?
  rw [leavesUnder_service]
  exact if_pos differ

theorem Unobstructed.foldl_settle (unobstructed : Unobstructed fields) (service : Service) :
    tracerPlaces.foldl settle (serviceLeaves service ++ leavesUnder [] fields) =
      serviceLeaves service ++ leavesUnder [] fields := by
  refine foldl_settle_of_absent fun field traced leaf inside => ?_
  rcases List.mem_append.mp inside with own | inside
  · intro same
    have length := (head?_of_mem_serviceLeaves own).2
    rw [same] at length
    cases length
  · obtain ⟨name, rest, placed, free⟩ := unobstructed.exists_cons inside
    rw [placed]
    rintro ⟨⟩
    exact free (List.mem_append_right _ (List.mem_cons_of_mem _ (List.mem_map_of_mem traced)))

theorem Unobstructed.filter_kept (unobstructed : Unobstructed fields) (service : Service) :
    (serviceLeaves service ++ leavesUnder [] fields).filter
        (fun leaf => !isLabel leaf && !leaf.2.isNull) =
      serviceLeaves service ++ filledLeaves fields := by
  unfold filledLeaves
  rw [List.filter_append]
  congr 1
  refine List.filter_congr fun leaf inside => ?_
  have unlabelled : isLabel leaf = false := by
    unfold isLabel
    rw [beq_false_of_ne (unobstructed.outside leaf inside labelsName (by decide)), Bool.false_and]
  rw [unlabelled, Bool.not_false, Bool.true_and]

/-- **All values of unobstructed fields but null are to be written.** -/
theorem fieldLeaves?_of_unobstructed (unobstructed : Unobstructed fields) (service : Service) :
    fieldLeaves? (service.field :: fields) =
      some (serviceLeaves service ++ filledLeaves fields) := by
  have seen : (service.field :: fields).filter (fun field => !unwrittenNames.contains field.1) =
      service.field :: fields := by
    refine List.filter_eq_self.mpr (List.forall_mem_cons.mpr ⟨rfl, fun field inside => ?_⟩)
    simpa using (unobstructed.named field inside).2
  have shown : (serviceLeaves service ++ filledLeaves fields).all (·.2.shown?.isSome) = true := by
    rw [List.all_append, Bool.and_eq_true, List.all_eq_true, List.all_eq_true]
    refine ⟨fun leaf own => ?_, fun leaf inside => ?_⟩
    · rcases List.mem_pair.mp own with rfl | rfl <;> rfl
    · have showable := unobstructed.showable leaf (mem_filledLeaves.mp inside).1
      rw [← Value.shown?_eq_none_iff] at showable
      exact Option.isSome_iff_ne_none.mpr showable
  simp only [fieldLeaves?, seen, unobstructed.leaves?_eq, Option.bind_eq_bind, Option.bind_some,
    unobstructed.foldl_settle, unobstructed.filter_kept]
  exact if_pos shown

/-- What stands in a line before the fields of the record. -/
def frame (record : Record) (service : Service) : Fields := [
  ("@timestamp", .null),
  ("log", .record [("level", .text (Text.lower record.level.name)), ("logger", .text record.logger),
    ("original", .text record.message),
    ("origin", .record [("function", .null), ("file", .record [("line", .null), ("name", .null)])])]),
  ("process", .record [("pid", .null), ("name", .null),
    ("thread", .record [("id", .null), ("name", .null)])]),
  ("service", .record [("name", .text service.name), ("environment", .text service.environment)])]

theorem document?_frame (record : Record) (service : Service) :
    document? (ownLeaves record ++ serviceLeaves service) = some (frame record service) := rfl

/-- The values of a record's fields are added to what stands in every line. -/
theorem document?_ownLeaves (record : Record) (service : Service) (leaves : Leaves) :
    document? (ownLeaves record ++ (serviceLeaves service ++ leaves)) =
      leaves.foldlM (fun fields leaf => insert? leaf.2 leaf.1 fields) (frame record service) := by
  have framed := document?_frame record service
  unfold document? at framed ⊢
  rw [← List.append_assoc, List.foldlM_append, framed]
  rfl

/-- The fields besides in a line are those of its document whose names are not its own. -/
theorem valueAt?_besides {place : Place} {document : Fields} {value : Value} (placed : place ≠ [])
    (outside : ∀ name ∈ ownNames, place.head? ≠ some name)
    (found : valueAt? place (.record document) = some value) :
    valueAt? place (.record ((writableFields document).filter fun field =>
      !ownNames.contains field.1)) = some (writable value) := by
  obtain ⟨name, rest, rfl⟩ := List.exists_cons_of_ne_nil placed
  have kept : (!ownNames.contains name) = true := by
    simpa using fun own => outside name own rfl
  have written := valueAt?_writable (name :: rest) (.record document)
  rw [found] at written
  unfold valueAt?
  rw [lookup_filter (fun name => !ownNames.contains name) kept]
  exact written

theorem lookup_frame {name : String} (outside : name ∉ ownNames) :
    (frame record service).lookup name = none := by
  rw [List.lookup_eq_none_iff]
  rintro field inside
  have own : field.1 ∈ ownNames := by
    simp only [frame, List.mem_cons, List.not_mem_nil, or_false] at inside
    rcases inside with rfl | rfl | rfl | rfl <;> simp [ownNames]
  exact bne_iff_ne.mpr fun same => outside (same ▸ own)

/-- **A document of unobstructed fields can be made.** It has each value of theirs but null at its
place, and under the names of a line's own what stands there anyway. -/
theorem exists_document?_of_unobstructed (service : Service)
    (unobstructed : Unobstructed record.fields) :
    ∃ document, document? (ownLeaves record ++ (serviceLeaves service ++ filledLeaves record.fields)) =
        some document ∧
      (∀ name ∈ ownNames, document.lookup name = (frame record service).lookup name) ∧
      ∀ leaf ∈ filledLeaves record.fields, valueAt? leaf.1 (.record document) = some leaf.2 := by
  have own : ∀ name ∈ ownNames, name ∈ takenNames := fun name => List.mem_append_left _
  have within : ∀ leaf ∈ filledLeaves record.fields, leaf ∈ leavesUnder [] record.fields :=
    fun leaf inside => (mem_filledLeaves.mp inside).1
  have apart := unobstructed.apart.filter fun leaf => !leaf.2.isNull
  have free : ∀ leaf ∈ filledLeaves record.fields, Free leaf.1 (frame record service) := by
    intro leaf inside
    obtain ⟨name, rest, placed, free⟩ := unobstructed.exists_cons (within leaf inside)
    rw [placed]
    exact .new (lookup_frame fun taken => free (own name taken))
  have plain : ∀ leaf ∈ filledLeaves record.fields, ∀ inner, leaf.2 ≠ .record inner :=
    fun leaf inside => (prefix_of_mem_leavesUnder record.fields (within leaf inside)).2
  obtain ⟨document, made⟩ := (exists_foldlM_insert?_iff plain).mpr ⟨free, apart⟩
  refine ⟨document, (document?_ownLeaves record service _).trans made, fun name taken => ?_,
    fun leaf inside => valueAt?_of_mem made apart inside⟩
  rw [← valueAt?_singleton, ← valueAt?_singleton]
  refine valueAt?_of_forall_apart made fun leaf inside => ?_
  obtain ⟨first, rest, placed, free⟩ := unobstructed.exists_cons (within leaf inside)
  rw [placed]
  exact Place.apart_cons_of_ne fun same => free (own first (same ▸ taken))

/-- **A record whose fields are unobstructed has a line, which tells all of it.** -/
theorem written?_of_unobstructed (stamped : record.service = some service)
    (unobstructed : Unobstructed record.fields) :
    ∃ line, written? record = some line ∧ line.Tells record service := by
  have named : ¬ record.fields.any (·.1 == messageName) = true := by
    rw [List.any_eq_true]
    rintro ⟨field, inside, same⟩
    exact (unobstructed.named field inside).1 (beq_iff_eq.mp same)
  obtain ⟨document, made, own, values⟩ := exists_document?_of_unobstructed service unobstructed
  refine ⟨⟨record.level, record.logger, ((writableFields document).lookup "message").getD
    (.text record.message), (writableFields document).lookup "service",
    (writableFields document).filter fun field => !ownNames.contains field.1⟩, ?_, ?_⟩
  · unfold written?
    rw [if_neg named, stamped]
    show (fieldLeaves? (service.field :: record.fields)).bind _ = _
    rw [fieldLeaves?_of_unobstructed unobstructed, Option.bind_some, made]
    rfl
  · have message : document.lookup "message" = none := own "message" (by decide)
    have stamp := own "service" (by decide)
    refine ⟨rfl, rfl, ?_, ?_, fun leaf inside filled => ?_⟩
    · rw [lookup_writableFields "message", message]
      rfl
    · rw [lookup_writableFields "service", stamp]
      rfl
    · refine valueAt?_besides (ne_nil_of_mem_leavesUnder inside) (fun name taken => ?_)
        (values leaf (mem_filledLeaves.mpr ⟨inside, filled⟩))
      exact unobstructed.outside leaf inside name (List.mem_append_left _ taken)

end Writing

end Line

end SignIn.Log

/-
**Texts without their ends.**

Dropping the characters of a class at both ends of a text leaves its core: what stands between them,
beginning and ending with a character that is kept (`dropEnds_eq_iff`). Nothing more is dropped from a
core, so a text that was stripped is left as it is (`strip_strip`).
-/

import SignIn.Text.Blank

namespace SignIn.Text

variable {isDropped : Char → Bool} {text core : List Char}

theorem dropWhile_eq_self (keep : ∀ c ∈ text.head?, isDropped c = false) :
    text.dropWhile isDropped = text := by
  cases text with
  | nil => rfl
  | cons first rest => exact List.dropWhile_cons_of_neg (by simp [keep first rfl])

/-- Nothing is dropped from a text whose ends are to be kept. -/
theorem dropEnds_eq_self (keepFirst : ∀ c ∈ text.head?, isDropped c = false)
    (keepLast : ∀ c ∈ text.getLast?, isDropped c = false) : dropEnds isDropped text = text := by
  unfold dropEnds
  rw [dropWhile_eq_self keepFirst, dropWhile_eq_self (by rwa [List.head?_reverse]),
    List.reverse_reverse]

theorem trim_cons {c : Char} (blank : isBlank c = true) (text : List Char) :
    trim (c :: text) = trim text := by
  unfold trim dropEnds
  rw [List.dropWhile_cons_of_pos blank]

/-! ### The core of a text -/

/-- The core of a text: around it stand only characters that are dropped, and it begins and ends with
one that is kept, if there is anything in it. -/
structure IsCore (isDropped : Char → Bool) (text core : List Char) : Prop where
  within : ∃ before behind, text = before ++ (core ++ behind) ∧
    (∀ c ∈ before, isDropped c = true) ∧ ∀ c ∈ behind, isDropped c = true
  first : ∀ c ∈ core.head?, isDropped c = false
  last : ∀ c ∈ core.getLast?, isDropped c = false

/-- What begins and ends with a character that is kept is a core of itself. -/
theorem isCore_self (first : ∀ c ∈ core.head?, isDropped c = false)
    (last : ∀ c ∈ core.getLast?, isDropped c = false) : IsCore isDropped core core :=
  ⟨⟨[], [], (List.append_nil core).symm, by simp, by simp⟩, first, last⟩

theorem not_isDropped_of_head?_dropWhile {c : Char}
    (first : c ∈ (text.dropWhile isDropped).head?) : isDropped c = false := by
  have kept := List.head?_dropWhile_not isDropped text
  rw [Option.mem_def.mp first] at kept
  exact kept

theorem dropWhile_append_eq {before : List Char} (dropped : ∀ c ∈ before, isDropped c = true)
    (keep : ∀ c ∈ text.head?, isDropped c = false) :
    (before ++ text).dropWhile isDropped = text := by
  rw [List.dropWhile_append_of_pos dropped, dropWhile_eq_self keep]

theorem isCore_dropEnds (isDropped : Char → Bool) (text : List Char) :
    IsCore isDropped text (dropEnds isDropped text) := by
  have front : text.takeWhile isDropped ++ text.dropWhile isDropped = text :=
    List.takeWhile_append_dropWhile
  -- What is left in front is cut in the same way from behind.
  have back : dropEnds isDropped text ++
      ((text.dropWhile isDropped).reverse.takeWhile isDropped).reverse =
        text.dropWhile isDropped := by
    unfold dropEnds
    rw [← List.reverse_append, List.takeWhile_append_dropWhile, List.reverse_reverse]
  refine ⟨⟨_, _, (back ▸ front).symm, fun c member => ?_, fun c member => ?_⟩, fun c first => ?_,
    fun c last => ?_⟩
  · exact List.all_eq_true.mp List.all_takeWhile c member
  · exact List.all_eq_true.mp List.all_takeWhile c (List.mem_reverse.mp member)
  · have firstKept : c ∈ (text.dropWhile isDropped).head? := by
      rw [← back, List.head?_append, Option.mem_def.mp first]
      rfl
    exact not_isDropped_of_head?_dropWhile firstKept
  · unfold dropEnds at last
    rw [List.getLast?_reverse] at last
    exact not_isDropped_of_head?_dropWhile last

/-- **Dropping the ends of a text leaves its core**, of which there is only one. -/
theorem dropEnds_eq_iff : dropEnds isDropped text = core ↔ IsCore isDropped text core := by
  refine ⟨fun same => same ▸ isCore_dropEnds isDropped text, ?_⟩
  rintro ⟨⟨before, behind, rfl, dropped, also⟩, first, last⟩
  unfold dropEnds
  cases core with
  | nil =>
    rw [List.nil_append, ← List.append_nil (before ++ behind),
      dropWhile_append_eq (List.forall_mem_append.mpr ⟨dropped, also⟩) (by simp)]
    rfl
  | cons c rest =>
    have front : (before ++ (c :: rest ++ behind)).dropWhile isDropped = c :: rest ++ behind :=
      dropWhile_append_eq dropped fun d same => first d same
    rw [front, List.reverse_append,
      dropWhile_append_eq (fun d member => also d (List.mem_reverse.mp member))
        (by rwa [List.head?_reverse]), List.reverse_reverse]

/-! ### Stripping -/

theorem strip_eq_iff {text core : String} :
    strip text = core ↔ IsCore isBlank text.toList core.toList := by
  have left : (strip text).toList = dropEnds isBlank text.toList := String.toList_ofList
  rw [← dropEnds_eq_iff, ← left, String.toList_inj]

/-- **A text that was stripped is left as it is.** -/
theorem strip_strip (text : String) : strip (strip text) = strip text := by
  obtain ⟨-, first, last⟩ := strip_eq_iff.mp (rfl : strip text = strip text)
  exact strip_eq_iff.mpr (isCore_self first last)

/-- Nothing is left exactly of a text that has only blanks. -/
theorem strip_eq_empty_iff {text : String} :
    strip text = "" ↔ ∀ c ∈ text.toList, isBlank c = true := by
  rw [strip_eq_iff, String.toList_empty]
  constructor
  · rintro ⟨⟨before, behind, parts, dropped, also⟩, -, -⟩
    rw [parts]
    exact List.forall_mem_append.mpr ⟨dropped, also⟩
  · intro blank
    exact ⟨⟨[], text.toList, rfl, by simp, blank⟩, by simp, by simp⟩

end SignIn.Text

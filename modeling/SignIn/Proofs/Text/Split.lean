/-
**Texts divided at a mark.**

What stands in front of the first mark of a text has none, so it is told apart from what stands behind
it (`takeWhile_ne_append`, `dropWhile_ne_append`), and a text is divided in one way only
(`append_mark_inj`).
-/

import SignIn.Text.Split

namespace SignIn.Text

theorem splitOn_of_not_mem {separator : Char} {part : List Char} (absent : separator ∉ part) :
    splitOn separator part = [part] := by
  induction part with
  | nil => rfl
  | cons c rest ih =>
    rw [List.mem_cons, not_or] at absent
    rw [splitOn, if_neg fun same => absent.1 same.symm, ih absent.2]

theorem splitOn_append {separator : Char} {part : List Char} (absent : separator ∉ part)
    (rest : List Char) :
    splitOn separator (part ++ separator :: rest) = part :: splitOn separator rest := by
  induction part with
  | nil => rw [List.nil_append, splitOn, if_pos rfl]
  | cons c tail ih =>
    rw [List.mem_cons, not_or] at absent
    rw [List.cons_append, splitOn, if_neg fun same => absent.1 same.symm, ih absent.2]

theorem forall_ne_of_not_mem {mark : Char} {front : List Char} (absent : mark ∉ front) :
    ∀ c ∈ front, (c != mark) = true := by
  intro c member
  have differ : c ≠ mark := fun same => absent (same ▸ member)
  simpa using differ

theorem takeWhile_ne_append {mark : Char} {front : List Char} (absent : mark ∉ front)
    (rest : List Char) : (front ++ mark :: rest).takeWhile (· != mark) = front := by
  rw [List.takeWhile_append_of_pos (forall_ne_of_not_mem absent),
    List.takeWhile_cons_of_neg (by simp), List.append_nil]

theorem dropWhile_ne_append {mark : Char} {front : List Char} (absent : mark ∉ front)
    (rest : List Char) :
    (front ++ mark :: rest).dropWhile (· != mark) = mark :: rest := by
  rw [List.dropWhile_append_of_pos (forall_ne_of_not_mem absent),
    List.dropWhile_cons_of_neg (by simp)]

theorem takeWhile_ne_of_not_mem {mark : Char} {text : List Char} (absent : mark ∉ text) :
    text.takeWhile (· != mark) = text := by
  rw [← List.append_nil text, List.takeWhile_append_of_pos (forall_ne_of_not_mem absent),
    List.takeWhile_nil]

theorem dropWhile_ne_of_not_mem {mark : Char} {text : List Char} (absent : mark ∉ text) :
    text.dropWhile (· != mark) = [] := by
  rw [← List.append_nil text, List.dropWhile_append_of_pos (forall_ne_of_not_mem absent),
    List.dropWhile_nil]

/-- **A text is divided at its first mark in one way only.** -/
theorem append_mark_inj {mark : Char} {front other rest behind : List Char} (absent : mark ∉ front)
    (alsoAbsent : mark ∉ other) :
    front ++ mark :: rest = other ++ mark :: behind ↔ front = other ∧ rest = behind := by
  constructor
  · intro same
    have fronts := congrArg (List.takeWhile (· != mark)) same
    rw [takeWhile_ne_append absent, takeWhile_ne_append alsoAbsent] at fronts
    subst fronts
    exact ⟨rfl, List.tail_eq_of_cons_eq (List.append_cancel_left same)⟩
  · rintro ⟨rfl, rfl⟩
    rfl

end SignIn.Text

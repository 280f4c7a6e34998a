/-
**Splitting texts.**

A text is divided at every occurrence of a separator; the parts between them may be empty:

* `splitOn_ne_nil`: there is always at least one part.
-/

namespace SignIn.Text

/-- The parts of a text between separators; a text without separator is one part. -/
def splitOn (separator : Char) : List Char → List (List Char)
  | [] => [[]]
  | c :: rest =>
    if c = separator then [] :: splitOn separator rest
    else
      match splitOn separator rest with
      | [] => [[c]]
      | part :: parts => (c :: part) :: parts

/-- **There is always at least one part.** -/
theorem splitOn_ne_nil (separator : Char) (text : List Char) : splitOn separator text ≠ [] := by
  cases text with
  | nil => simp [splitOn]
  | cons c rest =>
    unfold splitOn
    split
    · simp
    · split <;> simp

end SignIn.Text

/-
**Quoted texts are told apart.**

What is shown of a text between quotes can be read from the left, one character after the other. So it
tells the whole text, whatever quotes and escapes the text itself holds:

* `numberOf_fixedDigits`: digits of a fixed width tell a number, as far as it fits;
* `readShown?_escape`: a character is read back from what is written for it, whatever follows;
* `quoteWith_injective`: so contents that are quoted alike are the same;
* `quoted_injective`, `quotedBytes_injective`: the same for texts and for byte strings.
-/

import Mathlib
import SignIn.Text.Quoted

namespace SignIn.Text

/-! ### Digits -/

theorem length_fixedDigits (base width value : Nat) :
    (fixedDigits base width value).length = width := by
  induction width generalizing value with
  | zero => rfl
  | succ width ih => rw [fixedDigits, List.length_append, ih, List.length_singleton]

theorem hexValue?_digit {value : Nat} (small : value < 16) :
    hexValue? (digit value) = some value := by
  have all : ∀ value : Fin 16, hexValue? (digit value.val) = some value.val := by decide
  exact all ⟨value, small⟩

/-- The number that hexadecimal digits write. -/
def numberOf (digits : List Char) : Nat :=
  digits.foldl (fun value d => 16 * value + (hexValue? d).getD 0) 0

/-- **Digits of a fixed width tell a number**, as far as it fits. -/
theorem numberOf_fixedDigits (width value : Nat) :
    numberOf (fixedDigits 16 width value) = value % 16 ^ width := by
  induction width generalizing value with
  | zero => exact (Nat.mod_one value).symm
  | succ width ih =>
    have last := hexValue?_digit (Nat.mod_lt value (by decide : 0 < 16))
    rw [fixedDigits, numberOf, List.foldl_append, ← numberOf, ih, List.foldl_cons, List.foldl_nil, last,
      Option.getD_some, Nat.pow_succ', Nat.mod_mul, Nat.add_comm]

/-! ### One character -/

/-- The character whose number stands in the first `width` digits, and what follows them. -/
def readNumber (width : Nat) (text : List Char) : Char × List Char :=
  (Char.ofNat (numberOf (text.take width)), text.drop width)

/-- Reads what follows a backslash: a letter, which may announce a number, or a character that was
marked. -/
def readMarked? : List Char → Option (Char × List Char)
  | [] => none
  | 'n' :: rest => some ('\n', rest)
  | 'r' :: rest => some ('\r', rest)
  | 't' :: rest => some ('\t', rest)
  | 'x' :: rest => some (readNumber 2 rest)
  | 'u' :: rest => some (readNumber 4 rest)
  | 'U' :: rest => some (readNumber 8 rest)
  | c :: rest => some (c, rest)

/-- Reads one character that is shown between quotes, and gives what follows it. -/
def readShown? : List Char → Option (Char × List Char)
  | [] => none
  | c :: rest => if c = backslash then readMarked? rest else some (c, rest)

theorem readShown?_cons {c : Char} (plain : c ≠ backslash) (rest : List Char) :
    readShown? (c :: rest) = some (c, rest) := by
  rw [readShown?, if_neg plain]

theorem readNumber_fixedDigits {width : Nat} {c : Char} (fits : c.toNat < 16 ^ width)
    (rest : List Char) : readNumber width (fixedDigits 16 width c.toNat ++ rest) = (c, rest) := by
  have length := length_fixedDigits 16 width c.toNat
  rw [readNumber, List.take_left' length, List.drop_left' length, numberOf_fixedDigits,
    Nat.mod_eq_of_lt fits, Char.ofNat_toNat]

theorem readShown?_numberEscape (c : Char) (rest : List Char) :
    readShown? (numberEscape c ++ rest) = some (c, rest) := by
  unfold numberEscape
  extract_lets code
  split_ifs with short middle
  · exact congrArg some (readNumber_fixedDigits short rest)
  · exact congrArg some (readNumber_fixedDigits middle rest)
  · exact congrArg some (readNumber_fixedDigits c.val.toNat_lt rest)

/-- A quote that may stand around a content. -/
def IsQuote (mark : Char) : Prop :=
  mark = singleQuote ∨ mark = doubleQuote

theorem isQuote_quoteFor (content : List Char) : IsQuote (quoteFor content) := by
  unfold quoteFor
  split
  · exact Or.inr rfl
  · exact Or.inl rfl

theorem IsQuote.ne_backslash {mark : Char} (quote : IsQuote mark) : mark ≠ backslash := by
  rcases quote with rfl | rfl <;> decide

section Content

variable {shown : Char → Bool} {mark : Char}

/-- **A character is read back from what is written for it**, whatever follows. -/
theorem readShown?_escape (quote : IsQuote mark) (c : Char) (rest : List Char) :
    readShown? (escape shown mark c ++ rest) = some (c, rest) := by
  unfold escape
  split_ifs with marked feed back tab plain
  · have either : c = mark ∨ c = backslash := by simpa using marked
    -- neither a quote nor a backslash is a letter that an escape begins with
    rcases either with rfl | rfl
    · rcases quote with rfl | rfl <;> rfl
    · rfl
  · rw [beq_iff_eq.mp feed]
    rfl
  · rw [beq_iff_eq.mp back]
    rfl
  · rw [beq_iff_eq.mp tab]
    rfl
  · refine readShown?_cons (fun same => marked ?_) rest
    rw [same, beq_self_eq_true, Bool.or_true]
  · exact readShown?_numberEscape c rest

/-! ### A whole content -/

theorem flatMap_escape_injective (quote : IsQuote mark) {first second : List Char}
    (same : first.flatMap (escape shown mark) ++ [mark] =
      second.flatMap (escape shown mark) ++ [mark]) : first = second := by
  -- The closing quote begins nothing that is written for a character: a quote in the content is escaped.
  have closing : ∀ (c : Char) (rest : List Char), [mark] ≠ escape shown mark c ++ rest := by
    intro c rest ends
    have read := congrArg readShown? ends
    rw [readShown?_cons quote.ne_backslash, readShown?_escape quote] at read
    obtain ⟨rfl, -⟩ := Prod.mk.inj (Option.some.inj read)
    rw [escape, beq_self_eq_true, Bool.true_or, if_pos rfl] at ends
    exact quote.ne_backslash (List.cons.inj ends).1
  induction first generalizing second with
  | nil =>
    cases second with
    | nil => rfl
    | cons d _ =>
      rw [List.flatMap_cons, List.append_assoc] at same
      exact absurd same (closing d _)
  | cons c first ih =>
    rw [List.flatMap_cons, List.append_assoc] at same
    cases second with
    | nil => exact absurd same.symm (closing c _)
    | cons d second =>
      rw [List.flatMap_cons, List.append_assoc] at same
      have read := congrArg readShown? same
      rw [readShown?_escape quote, readShown?_escape quote] at read
      obtain ⟨rfl, rest⟩ := Prod.mk.inj (Option.some.inj read)
      rw [ih rest]

/-- **Contents that are quoted alike are the same.** -/
theorem quoteWith_injective {first second : List Char}
    (same : quoteWith shown first = quoteWith shown second) : first = second := by
  obtain ⟨marks, contents⟩ := List.cons.inj same
  rw [marks] at contents
  exact flatMap_escape_injective (isQuote_quoteFor second) contents

end Content

/-- **Texts that are shown alike are the same.** -/
theorem quoted_injective {first second : String} (same : quoted first = quoted second) :
    first = second :=
  String.toList_inj.mp (quoteWith_injective (String.ofList_inj.mp same))

/-- The character with the number of a byte has that number. -/
theorem toNat_ofNat_byte (byte : UInt8) : (Char.ofNat byte.toNat).toNat = byte.toNat := by
  have latin : byte.toNat < 0xD800 := Nat.lt_of_lt_of_le byte.toNat_lt (by decide)
  rw [Char.ofNat, dif_pos (Or.inl latin)]
  rfl

theorem latinOfBytes_injective {first second : List UInt8}
    (same : latinOfBytes first = latinOfBytes second) : first = second := by
  have back : ∀ bytes : List UInt8,
      (latinOfBytes bytes).map (fun c => UInt8.ofNat c.toNat) = bytes := by
    intro bytes
    rw [latinOfBytes, List.map_map]
    refine List.map_id'' (fun byte => ?_) bytes
    rw [Function.comp_apply, toNat_ofNat_byte, UInt8.ofNat_toNat]
  rw [← back first, same, back]

/-- **Byte strings that are shown alike are the same.** -/
theorem quotedBytes_injective {first second : List UInt8}
    (same : quotedBytes first = quotedBytes second) : first = second :=
  latinOfBytes_injective (quoteWith_injective (List.cons.inj (String.ofList_inj.mp same)).2)

end SignIn.Text

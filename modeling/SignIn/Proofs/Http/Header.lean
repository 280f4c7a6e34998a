/-
**Headers in parts.**

Both cookie headers are texts in parts, with a semicolon and a space between two of them. As long
as no part has a semicolon of its own, the parts are found again:

* `splitOn_joinSegments`: splitting at semicolons gives the parts back;
* `read_write`: a Cookie header that names coded values is read as the values;
* `nameIn_of_render`, `codedIn_of_render`: what a client reads first in a Set-Cookie header is
  the name and the coded value of the cookie;
* `secure_mem_attributesIn`: a header of a secure cookie says so.
-/

import Mathlib.Data.List.Basic
import SignIn.Proofs.Http.CodedValue
import SignIn.Proofs.Text.Split

namespace SignIn

open SetCookie

/-! ### Splitting and joining -/

namespace SetCookie

@[simp] theorem joinSegments_singleton (part : List Char) : joinSegments [part] = part := by
  show "; ".toList.intercalate [part] = part
  simp

theorem joinSegments_cons_cons (first second : List Char) (rest : List (List Char)) :
    joinSegments (first :: second :: rest) =
      first ++ ';' :: ' ' :: joinSegments (second :: rest) := by
  show "; ".toList.intercalate (first :: second :: rest) = _
  rw [List.intercalate_cons_cons, List.append_assoc]
  rfl

/-- **Splitting at semicolons gives the parts back**, each but the first behind a space. -/
theorem splitOn_joinSegments (first : List Char) (rest : List (List Char))
    (clean : ∀ part ∈ first :: rest, ';' ∉ part) :
    Text.splitOn ';' (joinSegments (first :: rest)) = first :: rest.map (' ' :: ·) := by
  have general : ∀ lead : List Char, ';' ∉ lead → Text.splitOn ';'
      (lead ++ joinSegments (first :: rest)) = (lead ++ first) :: rest.map (' ' :: ·) := by
    induction rest generalizing first with
    | nil =>
      intro lead free
      rw [joinSegments_singleton, Text.splitOn_of_not_mem]
      · rfl
      · rw [List.mem_append, not_or]
        exact ⟨free, clean first List.mem_cons_self⟩
    | cons second rest ih =>
      intro lead free
      have front : ';' ∉ lead ++ first := by
        rw [List.mem_append, not_or]
        exact ⟨free, clean first List.mem_cons_self⟩
      have spaced := ih second (fun part member => clean part (List.mem_cons_of_mem _ member))
        [' '] (by decide)
      rw [joinSegments_cons_cons, ← List.append_assoc, Text.splitOn_append front]
      show (lead ++ first) :: Text.splitOn ';' ([' '] ++ joinSegments (second :: rest)) = _
      rw [spaced]
      rfl
  exact general [] (by decide)

/-- What stands in a joined text stands in one of its parts, or between two of them. -/
theorem mem_joinSegments {parts : List (List Char)} {c : Char} (member : c ∈ joinSegments parts) :
    c ∈ "; ".toList ∨ ∃ part ∈ parts, c ∈ part := by
  induction parts with
  | nil => cases member
  | cons first rest ih =>
    cases rest with
    | nil =>
      rw [joinSegments_singleton] at member
      exact Or.inr ⟨first, List.mem_cons_self, member⟩
    | cons second others =>
      rw [joinSegments_cons_cons, List.mem_append, List.mem_cons, List.mem_cons] at member
      rcases member with inFirst | rfl | rfl | later
      · exact Or.inr ⟨first, List.mem_cons_self, inFirst⟩
      · exact Or.inl (by decide)
      · exact Or.inl (by decide)
      · rcases ih later with between | ⟨part, inside, here⟩
        · exact Or.inl between
        · exact Or.inr ⟨part, List.mem_cons_of_mem first inside, here⟩

end SetCookie

/-! ### The Cookie header -/

namespace CookieHeader

/-- One part of a Cookie header. -/
def writePair (pair : String × String) : List Char :=
  pair.1.toList ++ '=' :: pair.2.toList

/-- The Cookie header that names given coded values. -/
def write (pairs : List (String × String)) : String :=
  String.ofList (joinSegments (pairs.map writePair))

/-- A name with the coded form of a value. -/
def coded (pair : String × String) : String × String :=
  (pair.1, String.ofList (codedValue pair.2.toList))

theorem token_clean {name : List Char} (token : isToken name = true) {c : Char}
    (other : isTokenChar c = false) : c ∉ name := by
  intro member
  have each := List.all_eq_true.mp (Bool.and_eq_true _ _ |>.mp token).2
  exact ne_of_isTokenChar (each c member) other rfl

theorem trim_blanks {lead : List Char} (blank : ∀ c ∈ lead, Text.isBlank c = true)
    (text : List Char) : Text.trim (lead ++ text) = Text.trim text := by
  induction lead with
  | nil => rfl
  | cons c rest ih =>
    rw [List.cons_append, Text.trim_cons (blank c List.mem_cons_self)]
    exact ih fun d member => blank d (List.mem_cons_of_mem _ member)

/-- A part is read as its name and value; blanks in front of it do not count. -/
theorem readPair?_writePair {pair : String × String} (token : isToken pair.1.toList = true)
    (lead : List Char) (blank : ∀ c ∈ lead, Text.isBlank c = true) :
    readPair? (lead ++ writePair (coded pair)) = some pair := by
  have front : '=' ∉ lead ++ pair.1.toList := by
    rw [List.mem_append, not_or]
    refine ⟨fun member => ?_, token_clean token (by decide)⟩
    exact absurd (blank '=' member) (by decide)
  have form : lead ++ writePair (coded pair) =
      (lead ++ pair.1.toList) ++ '=' :: codedValue pair.2.toList := by
    unfold writePair coded
    rw [String.toList_ofList, List.append_assoc]
  have parts : splitPair (lead ++ writePair (coded pair)) =
      (lead ++ pair.1.toList, codedValue pair.2.toList) := by
    unfold splitPair
    rw [form, if_pos (by simp), Text.takeWhile_ne_append front, Text.dropWhile_ne_append front]
    rfl
  have nonempty : pair.1.toList.isEmpty = false := by
    simpa using (Bool.and_eq_true _ _ |>.mp token).1
  unfold readPair?
  rw [parts]
  simp only [trim_blanks blank, trim_of_isToken token, trim_codedValue, nonempty, Bool.false_and,
    Bool.false_eq_true, if_false, decodedValue_codedValue, String.ofList_toList]

theorem semicolon_not_mem_writePair {pair : String × String}
    (token : isToken pair.1.toList = true) : ';' ∉ writePair (coded pair) := by
  unfold writePair coded
  rw [String.toList_ofList, List.mem_append, List.mem_cons, not_or, not_or]
  exact ⟨token_clean token (by decide), by decide, semicolon_not_mem_codedValue _⟩

/-- **A Cookie header that names coded values is read as the values.** -/
theorem read_write (pairs : List (String × String))
    (tokens : ∀ pair ∈ pairs, isToken pair.1.toList = true) :
    read (write (pairs.map coded)) = pairs := by
  unfold read write
  rw [String.toList_ofList]
  cases pairs with
  | nil => rfl
  | cons first rest =>
    rw [List.map_cons, List.map_cons, splitOn_joinSegments]
    · have head : readPair? (writePair (coded first)) = some first :=
        readPair?_writePair (tokens first List.mem_cons_self) [] (by simp)
      have each : ∀ pair ∈ rest, readPair? (' ' :: writePair (coded pair)) = some pair :=
        fun pair member =>
          readPair?_writePair (tokens pair (List.mem_cons_of_mem _ member)) [' ']
            fun c space => List.mem_singleton.mp space ▸ rfl
      have later : (((rest.map coded).map writePair).map (' ' :: ·)).filterMap readPair? = rest := by
        rw [List.map_map, List.map_map, List.filterMap_map]
        exact (List.filterMap_congr each).trans List.filterMap_some
      rw [List.filterMap_cons_some head, later]
    · intro part member
      rw [← List.map_cons, ← List.map_cons, List.map_map, List.mem_map] at member
      obtain ⟨pair, inside, rfl⟩ := member
      exact semicolon_not_mem_writePair (tokens pair inside)

end CookieHeader

/-! ### The Set-Cookie header -/

namespace SetCookie

/-- The name that a client reads in a header: what stands in front of the first equals sign. -/
def nameIn (header : String) : String :=
  String.ofList (header.toList.takeWhile (· != '='))

/-- The coded value that a client reads in a header: what stands between the first equals sign
and the first semicolon. -/
def codedIn (header : String) : String :=
  String.ofList (((header.toList.dropWhile (· != '=')).drop 1).takeWhile (· != ';'))

/-- The attributes that a client reads in a header: what stands between semicolons, without the
blanks around it. -/
def attributesIn (header : String) : List (List Char) :=
  ((Text.splitOn ';' header.toList).drop 1).map Text.trim

/-- A cookie is written exactly when its name is a token that names no attribute and its header
stays within Latin-1. -/
theorem render_eq_ok_iff (cookie : Cookie) (header : String) :
    render cookie = .ok header ↔
      attributeWords.contains (Text.lower cookie.key) = false ∧ isToken cookie.key.toList = true ∧
        (joinSegments (segments cookie)).all isLatin1 = true ∧
        header = String.ofList (joinSegments (segments cookie)) := by
  unfold render
  constructor
  · intro written
    split at written
    · cases written
    rename_i free
    split at written
    · cases written
    rename_i token
    by_cases latin : (joinSegments (segments cookie)).all isLatin1 = true
    · simp only [latin, if_true] at written
      cases written
      exact ⟨Bool.not_eq_true _ ▸ free, by simpa using token, latin, rfl⟩
    · simp only [latin] at written
      cases written
  · rintro ⟨free, token, latin, rfl⟩
    simp only [free, token, latin, Bool.not_true, Bool.false_eq_true, if_false, if_true]

/-- What stands behind the coded value of a header. -/
def attributeSegments (cookie : Cookie) : List (List Char) :=
  (segments cookie).drop 1

theorem segments_eq (cookie : Cookie) :
    segments cookie = (cookie.key.toList ++ '=' :: codedValue cookie.value.toList) ::
      attributeSegments cookie := rfl

/-- A header begins with the name and the coded value, and a semicolon follows. -/
theorem exists_of_render {cookie : Cookie} {header : String} (written : render cookie = .ok header) :
    isToken cookie.key.toList = true ∧ ∃ rest, header.toList =
      cookie.key.toList ++ '=' :: (codedValue cookie.value.toList ++ ';' :: rest) := by
  obtain ⟨-, token, -, rfl⟩ := (render_eq_ok_iff cookie header).mp written
  refine ⟨token, ' ' :: joinSegments (attributeSegments cookie), ?_⟩
  rw [String.toList_ofList, segments_eq]
  show joinSegments (_ :: _ :: _) = _
  rw [joinSegments_cons_cons, List.append_assoc, List.cons_append]
  rfl

/-- **A client reads the name of a written cookie.** -/
theorem nameIn_of_render {cookie : Cookie} {header : String} (written : render cookie = .ok header) :
    nameIn header = cookie.key := by
  obtain ⟨token, rest, form⟩ := exists_of_render written
  unfold nameIn
  rw [form, Text.takeWhile_ne_append (CookieHeader.token_clean token (by decide)),
    String.ofList_toList]

/-- **A client reads the coded value of a written cookie.** -/
theorem codedIn_of_render {cookie : Cookie} {header : String} (written : render cookie = .ok header) :
    codedIn header = String.ofList (codedValue cookie.value.toList) := by
  obtain ⟨token, rest, form⟩ := exists_of_render written
  unfold codedIn
  rw [form, Text.dropWhile_ne_append (CookieHeader.token_clean token (by decide)),
    List.drop_succ_cons, List.drop_zero,
    Text.takeWhile_ne_append (semicolon_not_mem_codedValue _)]

theorem mem_toString_int {value : Int} {c : Char} (member : c ∈ (toString value).toList) :
    c.isDigit = true ∨ c = '-' := by
  have digits : ∀ {number : Nat}, c ∈ number.repr.toList → c.isDigit = true := by
    intro number inside
    rw [Nat.repr, String.toList_ofList] at inside
    exact Nat.isDigit_of_mem_toDigits (by decide) (by decide) inside
  rw [Int.toString_eq_repr] at member
  cases value with
  | ofNat number => exact Or.inl (digits member)
  | negSucc number =>
    have signed : c ∈ '-' :: (Nat.succ number).repr.toList := by
      simpa [Int.repr] using member
    rcases List.mem_cons.mp signed with rfl | inside
    · exact Or.inr rfl
    · exact Or.inl (digits inside)

/-- The characters of the words that a header is made with. -/
def wording : List Char :=
  "=HttpOnlyMax-Age=Path=SameSite=strictlaxSecure".toList

/-- Where a character of a header comes from. -/
inductive Origin (cookie : Cookie) (c : Char) : Prop where
  | key (member : c ∈ cookie.key.toList)
  | value (member : c ∈ codedValue cookie.value.toList)
  | path (member : c ∈ cookie.path.toList)
  | lifetime (member : c ∈ (toString cookie.maxAgeSeconds).toList)
  | word (member : c ∈ wording)

/-- **A part of a header has characters of the cookie and of fixed words only.** -/
theorem origin_of_mem_segments {cookie : Cookie} {part : List Char}
    (member : part ∈ segments cookie) {c : Char} (inside : c ∈ part) : Origin cookie c := by
  have fixed : ∀ {text : List Char}, text ⊆ wording → c ∈ text → Origin cookie c :=
    fun within here => .word (within here)
  have sameSite : cookie.sameSite.word.toList ⊆ wording := by
    cases cookie.sameSite <;> decide
  unfold segments at member
  simp only [List.mem_append, List.mem_cons, List.not_mem_nil, or_false] at member
  rcases member with (((rfl | rfl | rfl) | shown) | rfl) | flag
  · rw [List.mem_append, List.mem_cons] at inside
    rcases inside with key | rfl | value
    · exact .key key
    · exact .word (by decide)
    · exact .value value
  · exact fixed (by decide) inside
  · rcases List.mem_append.mp inside with name | number
    · exact fixed (by decide) name
    · exact .lifetime number
  · split at shown
    · cases shown
    · rw [List.mem_singleton.mp shown, List.mem_append] at inside
      rcases inside with name | path
      · exact fixed (by decide) name
      · exact .path path
  · rcases List.mem_append.mp inside with name | rule
    · exact fixed (by decide) name
    · exact fixed sameSite rule
  · split at flag
    · rw [List.mem_singleton.mp flag] at inside
      exact fixed (by decide) inside
    · cases flag

/-- No part of a header has a semicolon if the path has none. -/
theorem semicolon_not_mem_segments {cookie : Cookie} (token : isToken cookie.key.toList = true)
    (path : ';' ∉ cookie.path.toList) {part : List Char} (member : part ∈ segments cookie) :
    ';' ∉ part := by
  intro inside
  cases origin_of_mem_segments member inside with
  | key inKey => exact CookieHeader.token_clean token (by decide) inKey
  | value inValue => exact semicolon_not_mem_codedValue _ inValue
  | path inPath => exact path inPath
  | lifetime number =>
    rcases mem_toString_int number with digit | minus
    · exact absurd digit (by decide)
    · cases minus
  | word inWord => exact absurd inWord (by decide)

/-- **The attributes that a client reads are the parts behind the first**, if the path has no
semicolon. -/
theorem attributesIn_of_render {cookie : Cookie} {header : String}
    (written : render cookie = .ok header) (path : ';' ∉ cookie.path.toList) :
    attributesIn header = (attributeSegments cookie).map Text.trim := by
  obtain ⟨-, token, -, rfl⟩ := (render_eq_ok_iff cookie header).mp written
  unfold attributesIn
  rw [String.toList_ofList, segments_eq, splitOn_joinSegments, List.drop_succ_cons, List.drop_zero,
    List.map_map]
  · exact List.map_congr_left fun part _ => Text.trim_cons (by decide) part
  · rw [← segments_eq]
    exact fun part member => semicolon_not_mem_segments token path member

/-- **The header of a secure cookie says so.** -/
theorem secure_mem_attributesIn {cookie : Cookie} {header : String}
    (written : render cookie = .ok header) (path : ';' ∉ cookie.path.toList)
    (secure : cookie.secure = true) : "Secure".toList ∈ attributesIn header := by
  rw [attributesIn_of_render written path, List.mem_map]
  refine ⟨"Secure".toList, ?_, by decide⟩
  unfold attributeSegments segments
  rw [if_pos secure, List.append_assoc, List.append_assoc, List.cons_append, List.drop_succ_cons,
    List.drop_zero, ← List.append_assoc, ← List.append_assoc]
  exact List.mem_append_right _ (List.mem_singleton_self _)

end SetCookie

end SignIn

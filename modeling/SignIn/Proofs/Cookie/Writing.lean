/-
**Cookies on a response.**

The added cookies of a jar are written one after the other, up to the first that is refused:

* `writeAll_split`: what is written, and where writing stops;
* `writeAll_append`: cookies that can be written are, whatever comes behind them;
* `writeAll_eq_iff`: what is written does not depend on the headers that are there already, and is
  told by the cookies alone (`Written`);
* `apply_writes_longest_prefix`: so a jar writes the same to every response, and stays as it is.
-/

import SignIn.Cookie.Operation

namespace SignIn.Jar

/-- **What is written, and where writing stops.** The headers of the cookies in front of the
first that is refused are added; if there is such a cookie, its refusal is reported. -/
theorem writeAll_split (cookies : List Cookie) (headers : List String) :
    ∃ kept left written, cookies = kept ++ left ∧
      kept.map SetCookie.render = written.map .ok ∧
      (writeAll cookies headers).1 = headers ++ written ∧
      ((left = [] ∧ (writeAll cookies headers).2 = none) ∨
        ∃ refused rest refusal, left = refused :: rest ∧
          SetCookie.render refused = .error refusal ∧
          (writeAll cookies headers).2 = some refusal) := by
  induction cookies generalizing headers with
  | nil => exact ⟨[], [], [], rfl, rfl, (List.append_nil headers).symm, Or.inl ⟨rfl, rfl⟩⟩
  | cons cookie rest ih =>
    cases rendered : SetCookie.render cookie with
    | error refusal =>
      have stopped : writeAll (cookie :: rest) headers = (headers, some refusal) := by
        simp only [writeAll, rendered]
      rw [stopped]
      exact ⟨[], cookie :: rest, [], rfl, rfl, (List.append_nil headers).symm,
        Or.inr ⟨cookie, rest, refusal, rfl, rendered, rfl⟩⟩
    | ok header =>
      have next : writeAll (cookie :: rest) headers = writeAll rest (headers ++ [header]) := by
        simp only [writeAll, rendered]
      obtain ⟨kept, left, written, parts, headersOf, all, ending⟩ := ih (headers ++ [header])
      rw [next]
      refine ⟨cookie :: kept, left, header :: written, ?_, ?_, ?_, ending⟩
      · rw [parts, List.cons_append]
      · rw [List.map_cons, List.map_cons, rendered, headersOf]
      · rw [all, List.append_assoc, List.singleton_append]

/-- Cookies that can be written are written, whatever comes behind them. -/
theorem writeAll_append {cookies : List Cookie} {written : List String}
    (rendered : cookies.map SetCookie.render = written.map .ok) (rest : List Cookie)
    (headers : List String) :
    writeAll (cookies ++ rest) headers = writeAll rest (headers ++ written) := by
  induction cookies generalizing headers written with
  | nil =>
    have nothing : written = [] := List.map_eq_nil_iff.mp rendered.symm
    rw [nothing, List.append_nil, List.nil_append]
  | cons cookie later ih =>
    obtain ⟨header, others, rfl, here, there⟩ := List.map_eq_cons_iff.mp rendered.symm
    rw [List.cons_append, writeAll, ← here]
    show writeAll (later ++ rest) (headers ++ [header]) = _
    rw [ih there.symm, List.append_assoc, List.singleton_append]

/-- Each header that is written is the header of one of the cookies. -/
theorem exists_of_mem_written {cookies : List Cookie} {written : List String}
    (headersOf : cookies.map SetCookie.render = written.map .ok) {header : String}
    (member : header ∈ written) : ∃ cookie ∈ cookies, SetCookie.render cookie = .ok header := by
  have inside : Except.ok header ∈ cookies.map SetCookie.render := by
    rw [headersOf]
    exact List.mem_map_of_mem member
  exact List.mem_map.mp inside

/-! ### What is written, told by the cookies -/

/-- What is written of cookies: the headers of all of them, or of those in front of the first that
is refused, with its refusal. -/
inductive Written : List Cookie → List String → Option SetCookie.Refusal → Prop where
  | complete {cookies : List Cookie} {written : List String}
      (rendered : cookies.map SetCookie.render = written.map .ok) : Written cookies written none
  | stopped {kept rest : List Cookie} {cookie : Cookie} {written : List String}
      {refusal : SetCookie.Refusal} (rendered : kept.map SetCookie.render = written.map .ok)
      (refused : SetCookie.render cookie = .error refusal) :
      Written (kept ++ cookie :: rest) written (some refusal)

variable {cookies : List Cookie} {written : List String} {refusal : Option SetCookie.Refusal}

theorem exists_written (cookies : List Cookie) :
    ∃ written refusal, Written cookies written refusal := by
  obtain ⟨kept, left, written, parts, rendered, -, ending⟩ := writeAll_split cookies []
  rcases ending with ⟨rfl, -⟩ | ⟨cookie, rest, refusal, rfl, refused, -⟩
  · rw [List.append_nil] at parts
    exact ⟨written, none, .complete (parts ▸ rendered)⟩
  · exact ⟨written, some refusal, parts ▸ .stopped rendered refused⟩

/-- What is written comes behind the headers that are there already, whatever they are. -/
theorem Written.writeAll_eq (writes : Written cookies written refusal) (headers : List String) :
    writeAll cookies headers = (headers ++ written, refusal) := by
  cases writes with
  | complete rendered =>
    have whole := writeAll_append rendered [] headers
    rwa [List.append_nil] at whole
  | stopped rendered refused => rw [writeAll_append rendered, writeAll, refused]

/-- **What is written is told by the cookies alone.** -/
theorem writeAll_eq_iff (headers after : List String) :
    writeAll cookies headers = (after, refusal) ↔
      ∃ written, after = headers ++ written ∧ Written cookies written refusal := by
  constructor
  · intro result
    obtain ⟨written, ending, writes⟩ := exists_written cookies
    obtain ⟨rfl, rfl⟩ := Prod.mk.inj ((writes.writeAll_eq headers).symm.trans result)
    exact ⟨written, rfl, writes⟩
  · rintro ⟨written, rfl, writes⟩
    exact writes.writeAll_eq headers

/-- Writing stops exactly if one of the cookies is refused. -/
theorem Written.refusal_eq_none_iff (writes : Written cookies written refusal) :
    refusal = none ↔ ∀ cookie ∈ cookies, ∃ header, SetCookie.render cookie = .ok header := by
  cases writes with
  | complete rendered =>
    refine iff_of_true rfl fun cookie member => ?_
    have inside : SetCookie.render cookie ∈ cookies.map SetCookie.render :=
      List.mem_map_of_mem member
    rw [rendered] at inside
    obtain ⟨header, -, same⟩ := List.mem_map.mp inside
    exact ⟨header, same.symm⟩
  | @stopped kept rest cookie _ _ _ refused =>
    refine iff_of_false (Option.some_ne_none _) fun all => ?_
    obtain ⟨header, accepted⟩ := all cookie (List.mem_append_right kept List.mem_cons_self)
    cases refused.symm.trans accepted

/-- Each header that is written is the header of one of the cookies. -/
theorem Written.exists_of_mem (writes : Written cookies written refusal) {header : String}
    (member : header ∈ written) : ∃ cookie ∈ cookies, SetCookie.render cookie = .ok header := by
  cases writes with
  | complete rendered => exact exists_of_mem_written rendered member
  | stopped rendered refused =>
    obtain ⟨cookie, inside, same⟩ := exists_of_mem_written rendered member
    exact ⟨cookie, List.mem_append_left _ inside, same⟩

/-- **A jar writes the longest run of cookies that can be written, and stays as it is.** Behind the
headers that are there already come those of the added cookies in front of the first that is
refused, and the refusal of that cookie is reported; nothing is refused exactly if every added
cookie can be written. Another response gets the same headers and the same refusal, and whatever is
done next finds the jar as it was. -/
theorem apply_writes_longest_prefix (jar : Jar) :
    ∃ written refusal, Written jar.added written refusal ∧
      (∀ other ending, Written jar.added other ending → other = written ∧ ending = refusal) ∧
      (refusal = none ↔ ∀ cookie ∈ jar.added, ∃ header, SetCookie.render cookie = .ok header) ∧
      (∀ headers, jar.apply headers = (headers ++ written, refusal)) ∧
      ∀ policy rest, performAll policy jar (.apply :: rest) =
        ⟨jar, .written written refusal, []⟩ :: performAll policy jar rest := by
  obtain ⟨written, refusal, writes⟩ := exists_written jar.added
  have applied : ∀ headers, jar.apply headers = (headers ++ written, refusal) :=
    writes.writeAll_eq
  refine ⟨written, refusal, writes, fun other ending also => ?_, writes.refusal_eq_none_iff,
    applied, fun policy rest => ?_⟩
  · exact Prod.mk.inj ((also.writeAll_eq []).symm.trans (applied []))
  · have step : Operation.apply.perform policy jar = ⟨jar, .written written refusal, []⟩ := by
      simp only [Operation.perform, applied, List.nil_append]
    rw [performAll, step]

/-- The second name is no token, so nothing is heard of the third cookie. -/
example :
    writeAll [removal "a" (by decide), removal "a b" (by decide), removal "b" (by decide)] ["x=y"] =
      (["x=y", "a=\"\"; HttpOnly; Max-Age=1; Path=/; SameSite=lax"], some (.illegalKey "a b")) := by
  decide

end SignIn.Jar

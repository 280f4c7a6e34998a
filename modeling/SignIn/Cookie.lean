/-
**Cookies.**

A cookie of this library is never readable by scripts and never without a name; both hold by
construction, since every cookie comes from `Attributes.check`:

* `check_eq_ok_iff`: the attributes that make a cookie are those that hide it from scripts and
  name it.
-/

import SignIn.Duration
import SignIn.Failure
import SignIn.Value

namespace SignIn

/-- On which navigations a browser sends a cookie. -/
inductive SameSite where
  /-- Only on navigations that start at the cookie's own site. -/
  | strict
  /-- Also when a link on another site leads to the cookie's site. -/
  | lax
deriving DecidableEq

/-- The word for a same-site rule in a header. -/
def SameSite.word : SameSite → String
  | strict => "strict"
  | lax => "lax"

namespace Cookie

/-- The path of every cookie that does not ask for another. -/
def rootPath : String := "/"

/-- The attributes that a cookie is made from. -/
structure Attributes where
  key : String
  value : String
  /-- How long a browser keeps the cookie. -/
  maxAge : Duration
  /-- Whether the cookie is sent over encrypted connections only. -/
  secure : Bool
  sameSite : SameSite
  /-- Whether the cookie is hidden from scripts. -/
  httpOnly : Bool
  path : String
deriving DecidableEq

/-- Why attributes make no cookie. -/
inductive Defect where
  | scriptReadable
  | emptyKey
deriving DecidableEq

/-- The text of a defect. -/
def Defect.message : Defect → String
  | scriptReadable => "Cookies must not be readable from client-side scripts"
  | emptyKey => "Cookie key cannot be empty"

/-- A defect as a failure. -/
def Defect.failure (defect : Defect) : Failure :=
  .invalidCookie defect.message

end Cookie

/-- A cookie that is hidden from scripts and has a name. -/
structure Cookie extends Cookie.Attributes where
  httpOnly_eq : httpOnly = true
  key_ne : key ≠ ""
deriving DecidableEq

namespace Cookie

/-- The cookie that attributes make. Being readable by scripts is the first defect looked for. -/
def Attributes.check (attributes : Attributes) : Except Defect Cookie :=
  if hidden : attributes.httpOnly = true then
    if named : attributes.key ≠ "" then .ok ⟨attributes, hidden, named⟩
    else .error .emptyKey
  else .error .scriptReadable

/-- **The attributes that make a cookie are those that hide it from scripts and name it.** -/
theorem check_eq_ok_iff (attributes : Attributes) (cookie : Cookie) :
    attributes.check = .ok cookie ↔ cookie.toAttributes = attributes := by
  constructor
  · intro checked
    unfold Attributes.check at checked
    split at checked
    · split at checked
      · cases checked
        rfl
      · cases checked
    · cases checked
  · rintro rfl
    simp [Attributes.check, cookie.httpOnly_eq, cookie.key_ne]

/-- The lifetime of a cookie in whole seconds. -/
def maxAgeSeconds (cookie : Cookie) : Int :=
  cookie.maxAge.wholeSeconds

/-- How a cookie is shown in a message: without its value, which may be a secret. -/
def shown (cookie : Cookie) : String :=
  "Cookie(key=" ++ Text.quoted cookie.key ++ ", max_age=" ++ toString cookie.maxAgeSeconds ++
    "s, secure=" ++ Value.shownBool cookie.secure ++ ", same_site=" ++ cookie.sameSite.word ++ ")"

end Cookie

end SignIn

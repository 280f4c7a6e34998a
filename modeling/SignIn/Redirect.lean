/-
**Redirect targets.**

After a sign-in the browser is sent to a target that the client names. A target is allowed if it
is a path of this site, if it is on the local host during development, or if it begins with the
configured site URL, compared as text. Of two candidates only the first one present is looked at.
-/

import SignIn.Log
import SignIn.Text.Blank

namespace SignIn.Redirect

/-- The logger of rejected targets. -/
def logger : String := "apps.auth_policy.application.redirect.services.redirect_validator"

/-- Where a browser may be sent. An empty site URL, which every target begins with, is none. -/
structure Rules where
  dev : Bool
  siteUrl : Option String
  siteUrl_ne : siteUrl ≠ some ""

/-- The rules for a mode and a configured site URL, which may be empty. -/
def Rules.configure (dev : Bool) : Option String → Rules
  | none => ⟨dev, none, by simp⟩
  | some url => if named : url = "" then ⟨dev, none, by simp⟩ else ⟨dev, some url, by simp [named]⟩

/-- What a target on the local host begins with. -/
def localHost : String := "http://localhost"

/-- Whether a target is allowed. -/
def Rules.allows (rules : Rules) (target : String) : Bool :=
  if Text.startsWith target "/" then true
  else if rules.dev && Text.startsWith target localHost then true
  else
    match rules.siteUrl with
    | some url => Text.startsWith target url
    | none => false

/-- The log entry of a target that is not allowed: its first sixty-four characters. -/
def Rules.rejectedEntry (rules : Rules) (target : String) : Log.Entry :=
  ⟨.warning, "Rejected redirect target",
    [("redirect", .text (String.ofList (target.toList.take 64))), ("dev", .bool rules.dev)]⟩

/-- Judges a candidate that is present. -/
def Rules.judge (rules : Rules) (target : String) : Report (Option String) :=
  if rules.allows target then .silent (.ok (some target))
  else ⟨.error (.badRequest "Invalid redirect"), [rules.rejectedEntry target]⟩

/-- The target to follow: the first candidate that is present, if it is allowed. A candidate that
is not allowed is never replaced by the second. -/
def Rules.validate (rules : Rules) (first second : Option String) : Report (Option String) :=
  match first, second with
  | some target, _ => rules.judge target
  | none, some target => rules.judge target
  | none, none => .silent (.ok none)

/-- The target to follow in a mode, with a configured site URL. -/
def validate (dev : Bool) (siteUrl first second : Option String) : Report (Option String) :=
  (Rules.configure dev siteUrl).validate first second

end SignIn.Redirect

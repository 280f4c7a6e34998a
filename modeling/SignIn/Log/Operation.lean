/-
**Operations on the log.**

Everything that can happen to the log of a process, as data, so that whole runs can be spoken
about: its configuration changes, it is set up, and entries are sent through the loggers of their
own or while a redirect is judged or a jar is cleared.
-/

import SignIn.Cookie.Policy
import SignIn.Log.Facility
import SignIn.Redirect

namespace SignIn.Log.Facility

/-- What can happen to a log. -/
inductive Operation where
  | enter (environment : Settings.Environment)
  | drop
  | setup (level : Option String)
  | emit (logger : String) (entry : Entry)
  | redirect (rules : Redirect.Rules) (target : Option String)
  /-- Clears a jar that no cookies came with. -/
  | clearCookies (policy : Policy)
  /-- A failure of the caller's own, before anything reaches the log. -/
  | fail (failure : Failure)

/-- What an operation answers. -/
inductive Answer where
  | done
  | redirected (outcome : Except Failure (Option String))
  | misconfigured (fault : SetupFault)
  | clashed (clash : Clash)
  | failed (failure : Failure)

/-- The outcome of an operation. -/
structure Step where
  facility : Facility
  answer : Answer
  lines : List Line

/-- Performs an operation. -/
def Operation.perform (facility : Facility) : Operation → Step
  | .enter environment =>
    ⟨{ facility with configuration := facility.configuration.enter environment }, .done, []⟩
  | .drop => ⟨{ facility with configuration := facility.configuration.drop }, .done, []⟩
  | .setup level =>
    match facility.setup level with
    | (.ok (), later) => ⟨later, .done, []⟩
    | (.error fault, later) => ⟨later, .misconfigured fault, []⟩
  | .emit logger entry =>
    match facility.emit logger entry with
    | .ok lines => ⟨facility, .done, lines⟩
    | .error clash => ⟨facility, .clashed clash, []⟩
  | .redirect rules target =>
    let report := rules.validate target none
    ⟨facility, .redirected report.outcome, facility.emitAll Redirect.logger report.entries⟩
  | .clearCookies policy =>
    let (_, entries) := policy.clear (Jar.ofIncoming [])
    ⟨facility, .done, facility.emitAll Policy.logger entries⟩
  | .fail failure => ⟨facility, .failed failure, []⟩

/-- Performs operations one after the other; the outcome of each is kept. -/
def performAll : Facility → List Operation → List Step
  | _, [] => []
  | facility, operation :: rest =>
    let step := operation.perform facility
    step :: performAll step.facility rest

end SignIn.Log.Facility

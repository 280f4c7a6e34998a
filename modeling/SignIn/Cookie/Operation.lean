/-
**Operations on a jar.**

Everything that can be done to the jar of a request, as data, so that whole runs can be spoken
about: each operation gives a new jar, an answer and log entries; one that fails leaves the jar
as it was.
-/

import SignIn.Cookie.Policy

namespace SignIn

namespace Cookie

/-- The ways to choose the attributes of a cookie. -/
inductive Style where
  /-- By the mode. -/
  | forMode (dev : Bool)
  /-- One by one. -/
  | chosen (tlsOnly sameSite : Bool)
  /-- All of them. -/
  | exactly (secure : Bool) (sameSite : SameSite) (httpOnly : Bool) (path : String)
deriving DecidableEq

/-- The attributes of a cookie in a style. -/
def Style.attributes (key value : String) (ttl : Duration) : Style → Attributes
  | forMode dev => .forMode dev key value ttl
  | chosen tlsOnly sameSite => .chosen tlsOnly sameSite key value ttl
  | exactly secure sameSite httpOnly path => ⟨key, value, ttl, secure, sameSite, httpOnly, path⟩

/-- What a cookie is made from. -/
structure Recipe where
  style : Style
  key : String
  value : String
  /-- How long a browser is to keep the cookie, in microseconds. -/
  ttlMicros : Int
deriving DecidableEq

/-- The lifetime of so many microseconds. -/
def lifetime (micros : Int) : Except Failure Duration :=
  match Duration.ofMicros? micros with
  | some ttl => .ok ttl
  | none => .error .outOfRange

/-- The cookie that a recipe makes. A lifetime that is no duration is the first fault looked
for. -/
def Recipe.make (recipe : Recipe) : Except Failure Cookie := do
  let ttl ← lifetime recipe.ttlMicros
  (recipe.style.attributes recipe.key recipe.value ttl).check.mapError Defect.failure

end Cookie

namespace Jar

/-- What can be done to a jar under a policy. -/
inductive Operation where
  | get (key : String)
  | contains (key : String)
  | add (recipe : Cookie.Recipe)
  | remove (key : String)
  | removeReserved
  | clear
  | setSession (access refresh : String)
  | dev
  | authToken (value : String)
  | refreshToken (value : String)
  | oauthState (value : String)
  | build (key value : String) (ttlMicros : Int)
  | apply

/-- What an operation answers. -/
inductive Answer where
  | done
  | value (found : Option String)
  | flag (holds : Bool)
  | shown (text : String)
  | written (headers : List String) (refusal : Option SetCookie.Refusal)
  | failed (failure : Failure)

/-- The outcome of an operation. -/
structure Step where
  jar : Jar
  answer : Answer
  entries : List Log.Entry

/-- Adds a cookie if there is one. -/
def addMade (jar : Jar) (answer : Cookie → Answer) : Except Failure Cookie → Step
  | .ok cookie => ⟨jar.add cookie, answer cookie, []⟩
  | .error failure => ⟨jar, .failed failure, []⟩

/-- Performs an operation on a jar. -/
def Operation.perform (policy : Policy) (jar : Jar) : Operation → Step
  | .get key => ⟨jar, .value (jar.get? key), []⟩
  | .contains key => ⟨jar, .flag (jar.contains key), []⟩
  | .add recipe => jar.addMade (fun _ => .done) recipe.make
  | .remove key =>
    match jar.remove key with
    | .ok rest => ⟨rest, .done, []⟩
    | .error defect => ⟨jar, .failed defect.failure, []⟩
  | .removeReserved => ⟨jar.removeReserved, .done, []⟩
  | .clear =>
    let (rest, entries) := policy.clear jar
    ⟨rest, .done, entries⟩
  | .setSession access refresh => ⟨policy.setSession jar access refresh, .done, []⟩
  | .dev => ⟨jar, .flag policy.dev, []⟩
  | .authToken value => jar.addMade (.shown ·.shown) (.ok (policy.authToken value))
  | .refreshToken value => jar.addMade (.shown ·.shown) (.ok (policy.refreshToken value))
  | .oauthState value => jar.addMade (.shown ·.shown) (.ok (policy.oauthState value))
  | .build key value ttlMicros =>
    jar.addMade (.shown ·.shown) do
      (policy.build key value (← Cookie.lifetime ttlMicros)).mapError Cookie.Defect.failure
  | .apply =>
    let (headers, refusal) := jar.apply []
    ⟨jar, .written headers refusal, []⟩

/-- Performs operations one after the other; the outcome of each is kept. -/
def performAll (policy : Policy) : Jar → List Operation → List Step
  | _, [] => []
  | jar, operation :: rest =>
    let step := operation.perform policy jar
    step :: performAll policy step.jar rest

/-- The jar after a run of operations. -/
def afterAll (policy : Policy) (jar : Jar) (operations : List Operation) : Jar :=
  operations.foldl (fun rest operation => (operation.perform policy rest).jar) jar

end Jar

end SignIn

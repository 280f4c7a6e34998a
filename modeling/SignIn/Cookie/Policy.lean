/-
**The cookie policy.**

Three names are reserved for the cookies of a sign-in. Outside development every cookie is sent
over encrypted connections only and to its own site only; the one exception is the state of an
authorization that comes back from another site. A cookie is removed by overwriting it with an
empty one that lives for a second, under the most permissive attributes.
-/

import SignIn.Cookie.Jar
import SignIn.Log

namespace SignIn

/-- The cookies of a sign-in. -/
inductive Reserved where
  | authToken
  | refreshToken
  | oauthState
deriving DecidableEq

namespace Reserved

/-- The name of a reserved cookie. -/
def key : Reserved → String
  | authToken => "auth_token"
  | refreshToken => "refresh_token"
  | oauthState => "oauth_state"

/-- The reserved cookies in the order in which they are removed. -/
def all : List Reserved := [authToken, refreshToken, oauthState]

/-- A reserved cookie has a name. -/
theorem key_ne (reserved : Reserved) : reserved.key ≠ "" := by
  cases reserved <;> decide

end Reserved

namespace Cookie.Attributes

/-- Attributes that depend on the mode: in development the cookie is sent over any connection
and from links on other sites. -/
def forMode (dev : Bool) (key value : String) (ttl : Duration) : Attributes :=
  ⟨key, value, ttl, !dev, if dev then .lax else .strict, true, rootPath⟩

/-- Attributes chosen one by one. -/
def chosen (tlsOnly sameSite : Bool) (key value : String) (ttl : Duration) : Attributes :=
  ⟨key, value, ttl, tlsOnly, if sameSite then .strict else .lax, true, rootPath⟩

end Cookie.Attributes

namespace Jar

/-- The empty cookie that overwrites another one. -/
def removal (key : String) (named : key ≠ "") : Cookie :=
  ⟨.forMode true key "" Duration.oneSecond, rfl, named⟩

/-- Removes a cookie with a name; a jar without it stays as it is. -/
def removeNamed (jar : Jar) (key : String) (named : key ≠ "") : Jar :=
  if jar.contains key then jar.add (removal key named) else jar

/-- Removes a cookie. The cookie without a name, which only a request can bring, cannot be
overwritten. -/
def remove (jar : Jar) (key : String) : Except Cookie.Defect Jar :=
  if named : key ≠ "" then .ok (jar.removeNamed key named)
  else if jar.contains key then .error .emptyKey
  else .ok jar

/-- Removes the reserved cookies. -/
def removeReserved (jar : Jar) : Jar :=
  Reserved.all.foldl (fun rest reserved => rest.removeNamed reserved.key reserved.key_ne) jar

end Jar

/-- What the settings say about cookies. -/
structure Policy where
  dev : Bool
  authTokenTtl : Duration
  refreshTokenTtl : Duration
  oauthStateTtl : Duration

namespace Policy

/-- A cookie with the attributes of the policy's mode. -/
def build (policy : Policy) (key value : String) (ttl : Duration) : Except Cookie.Defect Cookie :=
  (Cookie.Attributes.forMode policy.dev key value ttl).check

/-- The cookie that carries the access token. -/
def authToken (policy : Policy) (value : String) : Cookie :=
  ⟨.forMode policy.dev Reserved.authToken.key value policy.authTokenTtl, rfl,
    Reserved.authToken.key_ne⟩

/-- The cookie that carries the refresh token. -/
def refreshToken (policy : Policy) (value : String) : Cookie :=
  ⟨.forMode policy.dev Reserved.refreshToken.key value policy.refreshTokenTtl, rfl,
    Reserved.refreshToken.key_ne⟩

/-- The cookie that carries the state of an authorization. The browser must send it when the
provider leads back here, so it is never bound to its own site. -/
def oauthState (policy : Policy) (value : String) : Cookie :=
  ⟨.chosen (!policy.dev) false Reserved.oauthState.key value policy.oauthStateTtl, rfl,
    Reserved.oauthState.key_ne⟩

/-- Adds the two cookies of a session. -/
def setSession (policy : Policy) (jar : Jar) (access refresh : String) : Jar :=
  (jar.add (policy.authToken access)).add (policy.refreshToken refresh)

/-- The logger of sign-outs. -/
def logger : String := "apps.auth_policy.application.cookie.services.cookie_policy"

/-- The log entry of a sign-out. -/
def clearedEntry (policy : Policy) : Log.Entry :=
  ⟨.debug, "Cleared auth cookies", [("dev", .bool policy.dev)]⟩

/-- Removes the cookies of a sign-in. -/
def clear (policy : Policy) (jar : Jar) : Jar × List Log.Entry :=
  (jar.removeReserved, [policy.clearedEntry])

end Policy

end SignIn

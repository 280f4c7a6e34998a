/-
**What is made from the settings.**

The cookie policy and the rules for redirects of a service with given settings.
-/

import SignIn.Cookie.Policy
import SignIn.Redirect
import SignIn.Setup.Fault

namespace SignIn

/-- The cookie policy with given lifetimes of its three cookies, which must all be durations. -/
def Policy.ofLifetimes (dev : Bool) (authToken refreshToken oauthState : Option Duration) :
    Except SetupFault Policy :=
  match authToken, refreshToken, oauthState with
  | some authToken, some refreshToken, some oauthState =>
    .ok ⟨dev, authToken, refreshToken, oauthState⟩
  | _, _, _ => .error .lifetimeOutOfRange

namespace Settings

/-- The lifetime of the access token's cookie. -/
def authTokenTtl? (settings : Settings) : Option Duration :=
  Duration.ofSeconds? settings.authTokenTtlSeconds

/-- The lifetime of the refresh token's cookie. -/
def refreshTokenTtl? (settings : Settings) : Option Duration :=
  Duration.ofSeconds? settings.refreshTokenTtlSeconds

/-- The lifetime of the cookie with an authorization's state. -/
def oauthStateTtl? (settings : Settings) : Option Duration :=
  Duration.ofSeconds? settings.oauthStateTtlSeconds

/-- The cookie policy, whose lifetimes must all be durations. -/
def cookiePolicy (settings : Settings) : Except SetupFault Policy :=
  Policy.ofLifetimes settings.devMode settings.authTokenTtl? settings.refreshTokenTtl?
    settings.oauthStateTtl?

/-- The rules for redirects. -/
def redirectRules (settings : Settings) : Redirect.Rules :=
  .configure settings.devMode settings.siteUrl

end Settings

end SignIn

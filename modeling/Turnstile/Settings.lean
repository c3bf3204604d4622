import Turnstile.Error
import Turnstile.Time

/-!
The signing secret and the lifetimes of tokens, in minutes. A lifetime is usable if it is positive and
fits a duration.
-/

namespace Turnstile

structure Settings where
  secret : String
  accessMinutes : Int
  grantMinutes : Int
  refreshMinutes : Int
  deriving DecidableEq, Repr

namespace Settings

def defaultAccessMinutes : Int := 60

def defaultGrantMinutes : Int := 15

def defaultRefreshMinutes : Int := 7 * 24 * 60

/-- The longest lifetime that a command line may ask for, about ten years. -/
def maxMinutes : Int := 5256000

def ofSecret (secret : String) : Settings :=
  ⟨secret, defaultAccessMinutes, defaultGrantMinutes, defaultRefreshMinutes⟩

def lifetime (what : String) (minutes : Int) : Except Error Duration :=
  match (Duration.ofMinutes? minutes).filter (0 < ·.nanos) with
  | some d => .ok d
  | none => .error (.internal s!"invalid {what} lifetime: {minutes} minutes")

/-- How long an access token from a login is valid. -/
def accessLifetime (c : Settings) : Except Error Duration := lifetime "access token" c.accessMinutes

/-- How long an access token from a refresh is valid. -/
def grantLifetime (c : Settings) : Except Error Duration := lifetime "refresh grant" c.grantMinutes

def refreshLifetime (c : Settings) : Except Error Duration :=
  lifetime "refresh token" c.refreshMinutes

/-- A description that keeps the secret to itself. -/
def describe (c : Settings) : String :=
  "AuthConfig \x7b jwt_secret: \"***\", access_token_ttl_minutes: " ++ toString c.accessMinutes ++
    ", refresh_grant_ttl_minutes: " ++ toString c.grantMinutes ++
    ", refresh_token_ttl_minutes: " ++ toString c.refreshMinutes ++ " \x7d"

end Settings

end Turnstile

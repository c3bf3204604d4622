import Turnstile.Http.Message
import Turnstile.Text.Blank
import Turnstile.Token.Access

/-!
Who makes a request, by the access token in its first authorization line.
-/

namespace Turnstile.Http

structure Principal where
  userId : Uuid
  phone : String
  roles : List String
  entitlements : List String
  deriving DecidableEq, Repr

def Principal.ofClaims (c : Token.Claims) : Principal := ⟨c.id, c.phone, c.roles, c.entitlements⟩

/-- The token of a bearer line; the scheme ends at the first space. -/
def bearerOfLine? (line : List Char) : Option String :=
  let scheme := line.takeWhile (· ≠ ' ')
  let token := Text.trimmed (line.drop (scheme.length + 1))
  if scheme.map Char.toLower = "bearer".toList ∧ token ≠ [] then some (String.ofList token) else none

def Headers.bearer? (h : Headers) : Option String :=
  (h.visible? "authorization").bind fun line => bearerOfLine? line.toList

def authenticate (secret : String) (now : Instant) (h : Headers) : Except Error Principal :=
  match h.bearer? with
  | none => .error .invalidAccessToken
  | some token => Principal.ofClaims <$> Token.verify secret now token

end Turnstile.Http

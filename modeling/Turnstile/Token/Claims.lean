import Turnstile.Json.Reader
import Turnstile.Uuid

/-!
What an access token says about its holder, as JSON. Members that are not claims of this service are
passed over, except that five registered names are looked at a second time when the token is checked.
-/

namespace Turnstile.Token

structure Claims where
  id : Uuid
  phone : String
  roles : List String
  entitlements : List String
  issuedAt : Int
  expiresAt : Int
  deriving DecidableEq, Repr

namespace Claims

open Json (Value)

def toValue (c : Claims) : Value :=
  .record [("id", .text c.id.hyphenated), ("phone", .text c.phone), ("roles", .texts c.roles),
    ("entitlements", .texts c.entitlements), ("iat", .integer c.issuedAt),
    ("exp", .integer c.expiresAt)]

def ofValue? (v : Value) : Option Claims := do
  return {
    id := ← (← (← v.member? "id").text?) |> Uuid.parse?
    phone := ← (← v.member? "phone").text?
    roles := ← (← v.member? "roles").texts?
    entitlements := ← (← v.member? "entitlements").texts?
    issuedAt := ← (← v.member? "iat").integer?
    expiresAt := ← (← v.member? "exp").integer? }

def fields : List Json.Field :=
  [⟨"id", .required, Json.text⟩, ⟨"phone", .required, Json.text⟩,
    ⟨"roles", .required, Json.list Json.text⟩, ⟨"entitlements", .required, Json.list Json.text⟩,
    ⟨"iat", .required, Json.integer⟩, ⟨"exp", .required, Json.integer⟩]

def ofBytes? (b : Bytes) : Option Claims :=
  (Json.read (Json.record false fields) (Json.wire b)).toOption.bind ofValue?

end Claims

/-- An audience is a text or a list of texts; anything else is no audience. -/
def isAudience (v : Json.Value) : Bool := v.text?.isSome || v.texts?.isSome

/-- A value that may turn out to be none. -/
def lenient (depth : Nat) : Json.Reader := fun s =>
  (Json.attempt depth s).map fun p => (p.1.getD .null, p.2)

/-- A value of which only a scalar or an empty bracket is taken. -/
def shallow : Json.Reader := fun s =>
  match Json.skipSpace s with
  | '[' :: rest =>
    match Json.skipSpace rest with
    | ']' :: rest => .ok (.null, rest)
    | _ => .error .mismatch
  | '{' :: rest =>
    match Json.skipSpace rest with
    | '}' :: rest => .ok (.null, rest)
    | _ => .error .mismatch
  | s => lenient 1 s

/-- A value of which only a scalar is taken. -/
def scalar : Json.Reader := fun s =>
  match Json.skipSpace s with
  | '[' :: _ | '{' :: _ => .error .mismatch
  | s => lenient 1 s

def registeredFields : List Json.Field :=
  [⟨"exp", .required, Json.integer⟩, ⟨"nbf", .defaulted, shallow⟩, ⟨"sub", .defaulted, scalar⟩,
    ⟨"iss", .defaulted, lenient 127⟩, ⟨"aud", .defaulted, lenient 127⟩]

/-- The registered claims of a payload: the expiry, and whether an audience is named. -/
structure Registered where
  expiresAt : Int
  audience : Bool

def Registered.ofBytes? (b : Bytes) : Option Registered := do
  let v ← (Json.read (Json.record false registeredFields) (Json.wire b)).toOption
  return ⟨← (← v.member? "exp").integer?, (v.member? "aud").any isAudience⟩

end Turnstile.Token

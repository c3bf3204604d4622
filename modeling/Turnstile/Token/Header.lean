import Turnstile.Json.Reader

/-!
The header of a signed token. Only the algorithm decides anything, but the other registered
parameters have to have their own shape where they occur, an embedded public key included.
-/

namespace Turnstile.Token

inductive Algorithm where
  | hs256 | hs384 | hs512 | es256 | es384 | rs256 | rs384 | rs512 | ps256 | ps384 | ps512 | edDSA
  deriving DecidableEq, Repr

namespace Algorithm

def all : List Algorithm :=
  [.hs256, .hs384, .hs512, .es256, .es384, .rs256, .rs384, .rs512, .ps256, .ps384, .ps512, .edDSA]

def name : Algorithm → String
  | .hs256 => "HS256"
  | .hs384 => "HS384"
  | .hs512 => "HS512"
  | .es256 => "ES256"
  | .es384 => "ES384"
  | .rs256 => "RS256"
  | .rs384 => "RS384"
  | .rs512 => "RS512"
  | .ps256 => "PS256"
  | .ps384 => "PS384"
  | .ps512 => "PS512"
  | .edDSA => "EdDSA"

def ofName? (s : String) : Option Algorithm := all.find? (·.name = s)

/-- A name, or a record that maps one name to null. -/
def ofValue? : Json.Value → Option Algorithm
  | .text s => ofName? s
  | .record [(s, .null)] => ofName? s
  | _ => none

end Algorithm

namespace PublicKey

open Json (Value)

def optional (ok : Value → Bool) : Option Value → Bool
  | none | some .null => true
  | some v => ok v

def isText (v : Value) : Bool := v.text?.isSome

def isTexts (v : Value) : Bool := v.texts?.isSome

def isOneOf (names : List String) (v : Value) : Bool :=
  match v with
  | .text s | .record [(s, .null)] => names.contains s
  | _ => false

/-- The name of an algorithm, known or not. -/
def isAlgorithm (v : Value) : Bool :=
  match v with
  | .text _ | .record [(_, .null)] | .record [(_, .record [])] => true
  | _ => false

def curves : List String := ["P-256", "P-384", "P-521", "Ed25519"]

/-- The parameters that each type of key needs. -/
def parameters : List (List (String × (Value → Bool))) :=
  [[("kty", isOneOf ["EC"]), ("crv", isOneOf curves), ("x", isText), ("y", isText)],
    [("kty", isOneOf ["RSA"]), ("n", isText), ("e", isText)],
    [("kty", isOneOf ["oct"]), ("k", isText)],
    [("kty", isOneOf ["OKP"]), ("crv", isOneOf curves), ("x", isText)]]

def common : List (String × (Value → Bool)) :=
  [("use", isText), ("key_ops", isTexts), ("alg", isAlgorithm), ("kid", isText), ("x5u", isText),
    ("x5c", isTexts), ("x5t", isText), ("x5t#S256", isText)]

def comesOnce (name : String) (v : Value) : Bool :=
  match v with
  | .record ms => (ms.filter (·.1 = name)).length ≤ 1
  | _ => true

def wellFormed (v : Value) : Bool :=
  common.all (fun p => comesOnce p.1 v && optional p.2 (v.member? p.1)) &&
    parameters.any fun ps => ps.all fun p => comesOnce p.1 v && (v.member? p.1).any p.2

end PublicKey

def headerFields : List Json.Field :=
  [⟨"typ", .nullable, Json.nullable Json.text⟩, ⟨"alg", .required, Json.any 4⟩,
    ⟨"cty", .nullable, Json.nullable Json.text⟩, ⟨"jku", .nullable, Json.nullable Json.text⟩,
    ⟨"jwk", .nullable, Json.nullable (Json.any 128)⟩, ⟨"kid", .nullable, Json.nullable Json.text⟩,
    ⟨"x5u", .nullable, Json.nullable Json.text⟩,
    ⟨"x5c", .nullable, Json.nullable (Json.list Json.text)⟩,
    ⟨"x5t", .nullable, Json.nullable Json.text⟩,
    ⟨"x5t#S256", .nullable, Json.nullable Json.text⟩]

/-- The algorithm that a header names. -/
def algorithm? (b : Bytes) : Option Algorithm := do
  let v ← (Json.read (Json.record false headerFields) (Json.wire b)).toOption
  if PublicKey.optional PublicKey.wellFormed (v.member? "jwk") then
    (v.member? "alg").bind Algorithm.ofValue?
  else none

/-- The header of every token issued here. -/
def issuedHeader : String :=
  Json.render (.record [("typ", .text "JWT"), ("alg", .text Algorithm.hs256.name)])

end Turnstile.Token

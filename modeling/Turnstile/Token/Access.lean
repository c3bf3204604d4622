import Turnstile.Base64
import Turnstile.Digest.Sha256
import Turnstile.Error
import Turnstile.Time
import Turnstile.Token.Claims
import Turnstile.Token.Header

/-!
Access tokens: header, payload and signature in unpadded base64url, joined by dots. The signature is
the keyed digest of the first two parts, so it is compared as text before the payload is looked at.
-/

namespace Turnstile.Token

def encodePart (s : String) : List Char := Base64.encode .urlSafe (.ofText s)

/-- The text of a part. A part that is checked need not have one. -/
def decodePart? (s : List Char) : Option String := (Base64.decode? .urlSafe s).bind Bytes.toText?

/-- What is signed. -/
def signingInput (header payload : List Char) : List Char := header ++ '.' :: payload

def signature (secret : String) (input : List Char) : List Char :=
  Base64.encode .urlSafe (Sha256.hmac (.ofText secret) (.ofText (String.ofList input)))

/-- An empty secret signs nothing. -/
def sign (secret : String) (c : Claims) : Except Error String :=
  if secret = "" then .error (.signing "signing secret is empty")
  else
    let input := signingInput (encodePart issuedHeader) (encodePart (Json.render c.toValue))
    .ok (String.ofList (input ++ '.' :: signature secret input))

/-- A token for an account, valid from the given wall-clock time on. -/
def issue (secret : String) (now : Instant) (id : Uuid) (phone : String)
    (roles entitlements : List String) (lifetime : Duration) : Except Error String :=
  sign secret ⟨id, phone, roles, entitlements, now.second, now.second + lifetime.seconds⟩

/-- The text before and after the last dot. -/
def splitLast? (s : List Char) : Option (List Char × List Char) :=
  let tail := s.reverse.takeWhile (· ≠ '.')
  if tail.length = s.length then none
  else some (s.take (s.length - tail.length - 1), tail.reverse)

structure Parts where
  header : List Char
  payload : List Char
  signature : List Char

def parts? (token : List Char) : Option Parts := do
  let (input, signature) ← splitLast? token
  let (header, payload) ← splitLast? input
  return ⟨header, payload, signature⟩

/-- How the bytes of a header and of a payload are read, the latter in two ways. -/
structure Decoding where
  algorithm? : Bytes → Option Algorithm
  claims? : Bytes → Option Claims
  registered? : Bytes → Option Registered

/-- Headers and payloads in JSON. -/
def Decoding.json : Decoding := ⟨Token.algorithm?, Claims.ofBytes?, Registered.ofBytes?⟩

/-- Checks the claims of a payload against the clock. The time limit comes before the audience. -/
def acceptPayload (d : Decoding) (now : Int) (payload : List Char) : Except Error Claims :=
  match Base64.decode? .urlSafe payload with
  | none => .error .invalidAccessToken
  | some b =>
    match d.claims? b, d.registered? b with
    | some claims, some r =>
      if r.expiresAt < 0 then .error .invalidAccessToken
      else if r.expiresAt < now then .error .expired
      else if r.audience then .error .invalidAccessToken
      else .ok claims
    | _, _ => .error .invalidAccessToken

def verifyWith (d : Decoding) (secret : String) (now : Instant) (token : String) :
    Except Error Claims :=
  match parts? token.toList with
  | none => .error .invalidAccessToken
  | some p =>
    match (Base64.decode? .urlSafe p.header).bind d.algorithm? with
    | none => .error .invalidAccessToken
    | some a =>
      if a ≠ .hs256 then .error .invalidSignature
      else if p.signature ≠ signature secret (signingInput p.header p.payload) then
        .error .invalidSignature
      else acceptPayload d now.second p.payload

def verify (secret : String) (now : Instant) (token : String) : Except Error Claims :=
  verifyWith .json secret now token

end Turnstile.Token

import Turnstile.Digest.Bytes
import Turnstile.Text.Hex

/-!
Percent-encoding of text. A percent sign that no two hexadecimal digits follow stands for itself.
-/

namespace Turnstile.Percent

def sign : UInt8 := 37

def byte? (high low : UInt8) : Option UInt8 := do
  let h ← Hex.value? (Char.ofNat high.toNat)
  let l ← Hex.value? (Char.ofNat low.toNat)
  return UInt8.ofNat (16 * h + l)

def decodeBytes : Bytes → Bytes
  | b :: high :: low :: rest =>
    if b = sign then
      match byte? high low with
      | some d => d :: decodeBytes rest
      | none => b :: decodeBytes (high :: low :: rest)
    else b :: decodeBytes (high :: low :: rest)
  | b :: rest => b :: decodeBytes rest
  | [] => []

/-- The text behind an encoded one, if its bytes are well-formed UTF-8. -/
def decode? (s : String) : Option String := Bytes.toText? (decodeBytes (Bytes.ofText s))

def encodeByte (b : UInt8) : List Char :=
  ['%', (Hex.digit (b.toNat / 16)).toUpper, (Hex.digit (b.toNat % 16)).toUpper]

def isControl (c : Char) : Bool := decide (c.toNat < 32) || decide (127 ≤ c.toNat)

/-- Encodes the characters of a set, and with them everything that is not printable ASCII. -/
def encode (set : List Char) (s : List Char) : List Char :=
  s.flatMap fun c =>
    if isControl c || set.contains c then (Bytes.ofText (String.singleton c)).flatMap encodeByte
    else [c]

end Turnstile.Percent

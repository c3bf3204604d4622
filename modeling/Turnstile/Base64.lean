import Turnstile.Digest.Bytes

/-!
Base64 in both alphabets, unpadded. Decoding is strict: it refuses a lone trailing character and a
last character with unused bits set, so that each byte string has exactly one spelling.
-/

namespace Turnstile.Base64

inductive Alphabet where
  | standard | urlSafe
  deriving DecidableEq, Repr

namespace Alphabet

def last (a : Alphabet) : Char × Char :=
  match a with
  | .standard => ('+', '/')
  | .urlSafe => ('-', '_')

/-- The character of a value below 64. -/
def char (a : Alphabet) (n : Nat) : Char :=
  if n < 26 then Char.ofNat (65 + n)
  else if n < 52 then Char.ofNat (71 + n)
  else if n < 62 then Char.ofNat (n - 4)
  else if n = 62 then a.last.1
  else a.last.2

def value? (a : Alphabet) (c : Char) : Option Nat :=
  if 'A' ≤ c ∧ c ≤ 'Z' then some (c.toNat - 65)
  else if 'a' ≤ c ∧ c ≤ 'z' then some (c.toNat - 71)
  else if '0' ≤ c ∧ c ≤ '9' then some (c.toNat + 4)
  else if c = a.last.1 then some 62
  else if c = a.last.2 then some 63
  else none

theorem value?_char (a : Alphabet) (n : Fin 64) : a.value? (a.char n) = some n.val := by
  cases a <;> revert n <;> decide

end Alphabet

def encode (a : Alphabet) : Bytes → List Char
  | x :: y :: z :: rest =>
    let n := x.toNat * 65536 + y.toNat * 256 + z.toNat
    a.char (n / 262144) :: a.char (n / 4096 % 64) :: a.char (n / 64 % 64) :: a.char (n % 64) ::
      encode a rest
  | [x, y] =>
    let n := x.toNat * 1024 + y.toNat * 4
    [a.char (n / 4096), a.char (n / 64 % 64), a.char (n % 64)]
  | [x] =>
    let n := x.toNat * 16
    [a.char (n / 64), a.char (n % 64)]
  | [] => []

def decode? (a : Alphabet) : List Char → Option Bytes
  | w :: x :: y :: z :: rest => do
    let w ← a.value? w
    let x ← a.value? x
    let y ← a.value? y
    let z ← a.value? z
    let rest ← decode? a rest
    let n := w * 262144 + x * 4096 + y * 64 + z
    some (UInt8.ofNat (n / 65536) :: UInt8.ofNat (n / 256) :: UInt8.ofNat n :: rest)
  | [w, x, y] => do
    let w ← a.value? w
    let x ← a.value? x
    let y ← a.value? y
    if y % 4 = 0 then
      let n := w * 1024 + x * 16 + y / 4
      some [UInt8.ofNat (n / 256), UInt8.ofNat n]
    else none
  | [w, x] => do
    let w ← a.value? w
    let x ← a.value? x
    if x % 16 = 0 then some [UInt8.ofNat (w * 4 + x / 16)] else none
  | [_] => none
  | [] => some []

def encodeText (a : Alphabet) (b : Bytes) : String := String.ofList (encode a b)

end Turnstile.Base64

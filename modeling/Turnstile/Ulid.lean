/-!
Sortable identifiers for requests: 48 bits of milliseconds and 80 random bits in 26 characters of
base 32, without the letters that are easily misread.
-/

namespace Turnstile.Ulid

def alphabet : List Char := "0123456789ABCDEFGHJKMNPQRSTVWXYZ".toList

def digit (n : Nat) : Char := alphabet.getD n '0'

def text (millis random : Nat) : String :=
  let bits := (millis % (1 <<< 48)) <<< 80 + random % (1 <<< 80)
  String.ofList ((List.range 26).map fun i => digit (bits >>> (5 * (25 - i)) % 32))

@[simp] theorem length_text (millis random : Nat) : (text millis random).length = 26 := by
  simp [text]

end Turnstile.Ulid

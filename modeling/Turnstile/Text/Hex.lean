/-!
Hexadecimal digits: written in lower case, read in either.
-/

namespace Turnstile.Hex

def digit (n : Nat) : Char := if n < 10 then Char.ofNat (48 + n) else Char.ofNat (87 + n)

def value? (c : Char) : Option Nat :=
  if '0' ≤ c ∧ c ≤ '9' then some (c.toNat - 48)
  else if 'a' ≤ c ∧ c ≤ 'f' then some (c.toNat - 87)
  else if 'A' ≤ c ∧ c ≤ 'F' then some (c.toNat - 55)
  else none

@[simp] theorem value?_digit (n : Fin 16) : value? (digit n.val) = some n.val := by
  revert n
  decide

end Turnstile.Hex

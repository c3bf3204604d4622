import Turnstile.Text.Lowercase
import Turnstile.Text.Pattern

/-!
Email addresses: something, an at-sign, something, a dot and something, where no part has white
space or an at-sign in it.
-/

namespace Turnstile.Email

/-- Trimmed and lower-cased; a blank address is no address. -/
def normalize (email : Option String) : Option String :=
  (email.map fun e => Text.lowercase (Text.trim e)).filter (· ≠ "")

def part : Text.Piece := ⟨.allBut '@', true⟩

def pattern : Text.Pattern := [part, ⟨.only '@', false⟩, part, ⟨.only '.', false⟩, part]

def wellFormed (email : String) : Bool := pattern.accepts email.toList

end Turnstile.Email

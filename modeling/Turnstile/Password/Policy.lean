import Turnstile.Error
import Turnstile.Text.Uppercase

/-!
The password policy. Rules are tried in order and the first one that is not met is reported. A
capital of any script counts; a digit has to be an ASCII digit.
-/

namespace Turnstile.Password

def minLength : Nat := 8

def specials : List Char := ['!', '@', '#', '$', '%', '^', '&', '*']

inductive Rule where
  | length | uppercase | digit | special
  deriving DecidableEq, Repr

namespace Rule

def all : List Rule := [.length, .uppercase, .digit, .special]

def met (p : List Char) : Rule → Bool
  | .length => decide (minLength ≤ p.length)
  | .uppercase => p.any Text.isUppercase
  | .digit => p.any Char.isDigit
  | .special => p.any (specials.contains ·)

def message : Rule → String
  | .length => s!"password must be at least {minLength} characters long"
  | .uppercase => "password must contain at least one uppercase letter"
  | .digit => "password must contain at least one digit"
  | .special =>
    "password must contain at least one special character (" ++ String.ofList specials ++ ")"

end Rule

def unmet? (password : String) : Option Rule :=
  Rule.all.find? (!·.met password.toList)

def validate (password : String) : Except Error Unit :=
  match unmet? password with
  | some rule => .error (.validation rule.message)
  | none => .ok ()

theorem validate_eq_ok_iff {password : String} :
    validate password = .ok () ↔ ∀ r : Rule, r.met password.toList = true := by
  have hall : ∀ r, r ∈ Rule.all := by intro r; cases r <;> decide
  unfold validate
  split
  · next rule h =>
    have := List.find?_some h
    constructor
    · intro h; cases h
    · intro hmet
      simp [hmet rule] at this
  · next h =>
    simp only [unmet?, List.find?_eq_none, Bool.not_eq_true, Bool.not_eq_false'] at h
    constructor
    · intro _ r
      simpa using h r (hall r)
    · intro _; rfl

end Turnstile.Password

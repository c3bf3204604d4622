import Turnstile.Error
import Turnstile.Text.Blank
import Turnstile.Text.DecimalDigit

/-!
Phone numbers in E.164 form: a plus sign, a digit from 1 to 9, and one to fourteen further digits.
The further digits may be decimal digits of any script.
-/

namespace Turnstile.Phone

def normalize (phone : String) : String := Text.withoutBlanks phone

def wellFormedText : List Char → Bool
  | '+' :: first :: rest =>
    decide ('1' ≤ first) && decide (first ≤ '9') && decide (1 ≤ rest.length) &&
      decide (rest.length ≤ 14) && rest.all Text.isDecimalDigit
  | _ => false

def wellFormed (phone : String) : Bool := wellFormedText phone.toList

def validate (phone : String) : Except Error Unit :=
  if wellFormed phone then .ok () else .error (.validation "phone must be in E.164 format")

@[simp] theorem normalize_normalize (phone : String) :
    normalize (normalize phone) = normalize phone := Text.withoutBlanks_withoutBlanks phone

theorem validate_eq_ok_iff {phone : String} : validate phone = .ok () ↔ wellFormed phone = true := by
  unfold validate
  split <;> simp_all

end Turnstile.Phone

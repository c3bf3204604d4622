import Turnstile.Store.Basic

/-!
The ledger of failed logins, by phone.
-/

namespace Turnstile.Store

def failedLogins? (s : Store) (phone : String) : Option FailedLogins := s.ledger[phone]?

/-- Counts one more failure, starting a record at the first. -/
def countFailure (phone : String) (s : Store) : Nat × Store :=
  let r := (s.ledger[phone]?).getD ⟨phone, 0, none⟩
  (r.attempts + 1, { s with ledger := s.ledger.insert phone { r with attempts := r.attempts + 1 } })

/-- Only a phone with a record can be blocked. -/
def setBlocked (phone : String) (til : Option Instant) (s : Store) : Store :=
  { s with ledger := s.ledger.modify phone fun r => { r with blockedUntil := til } }

def purgeFailures (phone : String) (s : Store) : Store :=
  { s with ledger := s.ledger.erase phone }

end Turnstile.Store

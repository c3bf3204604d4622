import Turnstile.Database
import Turnstile.Store.Ledger

/-!
Protection against guessing, by phone. The third failure locks for 30 seconds and the sixth for 60. A
lock that has run out is settled by the next check: below six failures it is cleared and the count
kept, at six the record goes and counting starts over.
-/

namespace Turnstile.Lockout

def shortThreshold : Nat := 3

def longThreshold : Nat := 6

def lockSeconds? (attempts : Int) : Option Int :=
  if attempts = shortThreshold then some 30
  else if attempts = longThreshold then some 60
  else none

/-- Whole seconds to wait, from whole milliseconds and at least one. -/
def retryAfter (remaining : Duration) : Nat := max 1 ((remaining.millis + 999) / 1000).toNat

/-- The longest lock that is set at this time ends within the calendar. Past the last such instant
a failure is counted, but what comes after that is undefined. -/
def Lockable (now : Instant) : Prop :=
  now.Representable ∧ (now.after (.ofSeconds 60)).Representable

instance (now : Instant) : Decidable (Lockable now) := inferInstanceAs (Decidable (_ ∧ _))

/-- A failure is counted, and the phone locked from a `Lockable` time on if its count calls for it. -/
def recordFailure (now : Instant) (phone : String) : Action Nat := do
  let attempts ← Action.change (Store.countFailure phone)
  match lockSeconds? attempts with
  | some seconds =>
    let til := now.after (.ofSeconds seconds)
    Action.change fun s => ((), s.setBlocked phone (some til))
  | none => pure ()
  return attempts

/-- What a check finds: a lock in force, one to settle, or nothing to do. -/
inductive Verdict where
  | locked (retryAfter : Nat)
  | purge
  | clear
  | free
  deriving DecidableEq, Repr

def FailedLogins.verdict (r : FailedLogins) (now : Instant) : Verdict :=
  match r.blockedUntil with
  | some til =>
    if now < til then .locked (retryAfter (til.since now))
    else if longThreshold ≤ r.attempts then .purge
    else .clear
  | none => if longThreshold ≤ r.attempts then .purge else .free

def check (now : Instant) (phone : String) : Action Unit := do
  match ← Action.query (·.failedLogins? phone) with
  | none => pure ()
  | some r =>
    match FailedLogins.verdict r now with
    | .locked seconds => throw (.locked seconds)
    | .purge => Action.change fun s => ((), s.purgeFailures phone)
    | .clear => Action.change fun s => ((), s.setBlocked phone none)
    | .free => pure ()

end Turnstile.Lockout

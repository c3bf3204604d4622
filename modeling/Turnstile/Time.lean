/-!
Instants and durations, counted in nanoseconds. Both are bounded: a duration by what 64-bit
milliseconds hold, an instant by the years −262143 to 262142, and arithmetic that leaves the bounds
is undefined.
-/

namespace Turnstile

structure Duration where
  nanos : Int
  deriving DecidableEq, Repr

namespace Duration

def maxMillis : Int := 9223372036854775807

def ofMillis (n : Int) : Duration := ⟨n * 1000000⟩

def ofSeconds (n : Int) : Duration := ⟨n * 1000000000⟩

def ofMinutes (n : Int) : Duration := ofSeconds (n * 60)

/-- A whole number of minutes, if its milliseconds fit 64 bits. -/
def ofMinutes? (n : Int) : Option Duration :=
  if -maxMillis ≤ n * 60000 ∧ n * 60000 ≤ maxMillis then some (ofMinutes n) else none

/-- Whole seconds, rounded toward zero. -/
def seconds (d : Duration) : Int := d.nanos.tdiv 1000000000

/-- Whole milliseconds, rounded toward zero. -/
def millis (d : Duration) : Int := d.nanos.tdiv 1000000

@[simp] theorem seconds_ofSeconds (n : Int) : (ofSeconds n).seconds = n := by
  simp [seconds, ofSeconds]

end Duration

structure Instant where
  nanos : Int
  deriving DecidableEq, Repr

namespace Instant

def firstSecond : Int := -8334601228800

def lastSecond : Int := 8210266876799

def Representable (t : Instant) : Prop :=
  firstSecond * 1000000000 ≤ t.nanos ∧ t.nanos < (lastSecond + 1) * 1000000000

instance (t : Instant) : Decidable t.Representable := by
  unfold Representable
  infer_instance

def ofSeconds (seconds nanos : Int) : Instant := ⟨seconds * 1000000000 + nanos⟩

/-- The second that the instant lies in, counted from the epoch. -/
def second (t : Instant) : Int := t.nanos.fdiv 1000000000

def subsecond (t : Instant) : Int := t.nanos.fmod 1000000000

def after (t : Instant) (d : Duration) : Instant := ⟨t.nanos + d.nanos⟩

def since (t s : Instant) : Duration := ⟨t.nanos - s.nanos⟩

/-- The later instant, unless it lies beyond the calendar. -/
def after? (t : Instant) (d : Duration) : Option Instant :=
  if (t.after d).Representable then some (t.after d) else none

instance : LT Instant := ⟨fun s t => s.nanos < t.nanos⟩

instance : LE Instant := ⟨fun s t => s.nanos ≤ t.nanos⟩

instance (s t : Instant) : Decidable (s < t) := inferInstanceAs (Decidable (s.nanos < t.nanos))

instance (s t : Instant) : Decidable (s ≤ t) := inferInstanceAs (Decidable (s.nanos ≤ t.nanos))

theorem lt_iff {s t : Instant} : s < t ↔ s.nanos < t.nanos := Iff.rfl

theorem le_iff {s t : Instant} : s ≤ t ↔ s.nanos ≤ t.nanos := Iff.rfl

end Instant

/-- Two clocks: one stamps tokens and accounts, the other rules lock windows and refresh expiry. -/
structure Clocks where
  wall : Instant
  service : Instant

end Turnstile

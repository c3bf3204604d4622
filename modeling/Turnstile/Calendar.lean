import Turnstile.Time

/-!
Instants as calendar text in UTC: a date of the Gregorian calendar, a time of day, and a fraction of
three, six or nine digits where there is one.
-/

namespace Turnstile

structure Date where
  year : Int
  month : Int
  day : Int
  deriving DecidableEq, Repr

/-- The date of a day counted from 1970-01-01. Years begin in March here, so that the leap day is the
last day of its year. -/
def Date.ofDay (n : Int) : Date :=
  let shifted := n + 719468
  let era := shifted.fdiv 146097
  let dayOfEra := shifted - era * 146097
  let yearOfEra := (dayOfEra - dayOfEra / 1460 + dayOfEra / 36524 - dayOfEra / 146096) / 365
  let dayOfYear := dayOfEra - (365 * yearOfEra + yearOfEra / 4 - yearOfEra / 100)
  let index := (5 * dayOfYear + 2) / 153
  let month := if index < 10 then index + 3 else index - 9
  { year := yearOfEra + era * 400 + (if month ≤ 2 then 1 else 0)
    month := month
    day := dayOfYear - (153 * index + 2) / 5 + 1 }

namespace Calendar

/-- A number in at least `width` digits. -/
def padded (width : Nat) (n : Int) : String :=
  let digits := (toString n.natAbs).toList
  String.ofList (List.replicate (width - digits.length) '0' ++ digits)

/-- Years of other than four digits carry their sign. -/
def yearText (y : Int) : String :=
  if 0 ≤ y ∧ y ≤ 9999 then padded 4 y else (if y < 0 then "-" else "+") ++ padded 4 y

def fractionText (nanos : Int) : String :=
  if nanos = 0 then ""
  else if nanos % 1000000 = 0 then "." ++ padded 3 (nanos / 1000000)
  else if nanos % 1000 = 0 then "." ++ padded 6 (nanos / 1000)
  else "." ++ padded 9 nanos

end Calendar

open Calendar

def Date.text (d : Date) : String := yearText d.year ++ "-" ++ padded 2 d.month ++ "-" ++ padded 2 d.day

def Instant.text (t : Instant) : String :=
  let second := t.second.fmod 86400
  (Date.ofDay (t.second.fdiv 86400)).text ++ "T" ++ padded 2 (second / 3600) ++ ":" ++
    padded 2 (second / 60 % 60) ++ ":" ++ padded 2 (second % 60) ++ fractionText t.subsecond ++ "Z"

end Turnstile

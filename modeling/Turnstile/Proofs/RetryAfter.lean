import Mathlib.Order.Bounds.Basic
import Turnstile.Proofs.Ledger

/-! The wait that a locked phone is told, against the one that it has. The end of a lock is compared
to the nanosecond, but the wait is cut to milliseconds before it is rounded up to seconds, so that a
last second of less than a millisecond is not counted. -/
namespace Turnstile

namespace Lockout

variable (s : Store) (phone : String) {now til : Instant} {n : Nat}

/-- Beyond the seconds that are told there is less than a millisecond to wait. -/
def CutShort (wait : Duration) : Prop :=
  1000000000 < wait.nanos ∧ 0 < wait.nanos % 1000000000 ∧ wait.nanos % 1000000000 < 1000000

instance (wait : Duration) : Decidable (CutShort wait) := inferInstanceAs (Decidable (_ ∧ _))

theorem retryAfter_eq {wait : Duration} (h : 0 ≤ wait.nanos) :
    (retryAfter wait : Int) = max 1 ((wait.nanos / 1000000 + 999) / 1000) := by
  have hmillis : wait.millis = wait.nanos / 1000000 := Int.tdiv_eq_ediv_of_nonneg h
  rw [retryAfter, hmillis]
  omega

/-- The seconds told, one more where they are cut short, are the least that last the wait. -/
theorem isLeast_retryAfter {wait : Duration} (h : 0 < wait.nanos) :
    IsLeast {k : Nat | wait.nanos ≤ (Duration.ofSeconds k).nanos}
      (if CutShort wait then retryAfter wait + 1 else retryAfter wait) := by
  have htold := retryAfter_eq (Int.le_of_lt h)
  by_cases hshort : CutShort wait
  · rw [if_pos hshort]
    obtain ⟨hlong, hbegun, hlost⟩ := hshort
    constructor
    · change wait.nanos ≤ ((retryAfter wait + 1 : Nat) : Int) * 1000000000
      omega
    · intro k (hk : wait.nanos ≤ (k : Int) * 1000000000)
      omega
  · rw [if_neg hshort]
    unfold CutShort at hshort
    constructor
    · change wait.nanos ≤ (retryAfter wait : Int) * 1000000000
      omega
    · intro k (hk : wait.nanos ≤ (k : Int) * 1000000000)
      omega

/-- Where the seconds are cut short, they pass before the end, and one more is told then. -/
theorem CutShort.told_again (h : CutShort (til.since now)) :
    let later := now.after (.ofSeconds (retryAfter (til.since now)))
    later < til ∧ retryAfter (til.since later) = 1 := by
  intro later
  obtain ⟨hlong, hbegun, hlost⟩ := h
  have htold : (retryAfter (til.since now) : Int) = _ := retryAfter_eq (by omega)
  have hrest : (til.since later).nanos = (til.since now).nanos % 1000000000 := by
    change til.nanos - (now.nanos + (retryAfter (til.since now) : Int) * 1000000000) = _
    change _ = (til.nanos - now.nanos) % 1000000000
    have hwait : (til.since now).nanos = til.nanos - now.nanos := rfl
    omega
  have hlater : (retryAfter (til.since later) : Int) = _ := retryAfter_eq (by omega)
  constructor
  · have hpos : 0 < til.nanos - later.nanos := by
      change 0 < (til.since later).nanos
      omega
    exact Int.lt_of_sub_pos hpos
  · omega

/-- The check lets the phone through. -/
def Admits (now : Instant) : Prop := ((check now phone).perform (.ready s)).1 = .ok ()

theorem admits_iff : Admits s phone now ↔ lockOn? now s.ledger[phone]? = none := by
  rw [Admits, perform_check_ready]
  cases lockOn? now s.ledger[phone]? <;> simp

/-- A phone whose entry has a lock is let through from its end on. -/
theorem admits_iff_of_blocked {e : FailedLogins} (he : s.ledger[phone]? = some e)
    (hb : e.blockedUntil = some til) : Admits s phone now ↔ til ≤ now := by
  rw [admits_iff, he, lockOn?_eq_none_iff_of_blocked hb]

/-- Whenever a check tells a phone to wait, it changes nothing, and the phone is let through from the
end of its lock on. The least whole number of seconds after which it is let through is what it is
told, or one more where that is cut short; there, after what it is told, it is told to wait for one
second again. From the least number of seconds on no login of the phone, in any spelling, is told to
wait. -/
theorem wait_least (s : Store) (phone : String) (now : Instant) (n : Nat)
    (h : ((check now phone).perform (.ready s)).1 = .error (.locked n)) :
    ((check now phone).perform (.ready s)).2 = .ready s ∧
      ∃ e til, s.ledger[phone]? = some e ∧ e.blockedUntil = some til ∧ now < til ∧
        (∀ later, Admits s phone later ↔ til ≤ later) ∧
        let least : Nat := if CutShort (til.since now) then n + 1 else n
        IsLeast {k : Nat | Admits s phone (now.after (.ofSeconds k))} least ∧
        (CutShort (til.since now) → (check (now.after (.ofSeconds n)) phone).perform (.ready s) =
          (.error (.locked 1), .ready s)) ∧
        ∀ (c : Settings) (later : Circumstances) (spelling password : String),
          Phone.normalize spelling = phone →
          now.after (.ofSeconds least) ≤ later.clocks.service →
          ∀ m, (Event.answer c ⟨later, .login spelling password⟩ (.ready s)).1 ≠
            .error (.locked m) := by
  have hl := lockOn?_of_check h
  obtain ⟨e, til, he, hb, hnow, rfl⟩ := exists_blocked hl
  have hadmits (later : Instant) : Admits s phone later ↔ til ≤ later :=
    admits_iff_of_blocked s phone he hb
  have hsame : ((check now phone).perform (.ready s)).2 = .ready s := by
    rw [perform_check_ready, hl]
  have hwait : 0 < (til.since now).nanos := Int.sub_pos_of_lt hnow
  have hleast : IsLeast {k : Nat | Admits s phone (now.after (.ofSeconds k))}
      (if CutShort (til.since now) then retryAfter (til.since now) + 1
        else retryAfter (til.since now)) := by
    have hseconds : {k : Nat | Admits s phone (now.after (.ofSeconds k))} =
        {k : Nat | (til.since now).nanos ≤ (Duration.ofSeconds k).nanos} :=
      Set.ext fun k => (hadmits _).trans ⟨Int.sub_left_le_of_le_add, Int.le_add_of_sub_left_le⟩
    rw [hseconds]
    exact isLeast_retryAfter hwait
  refine ⟨hsame, e, til, he, hb, hnow, hadmits, hleast, fun hshort => ?_, ?_⟩
  · obtain ⟨hlater, htold⟩ := hshort.told_again
    rw [perform_check_ready, he, lockOn?_of_blocked hb, if_pos hlater, htold]
  · intro c later spelling password hphone hwaited m hm
    have hlocked := Event.lockOn?_of_login hm
    have hthrough : Admits s phone later.clocks.service :=
      (hadmits _).mpr (Int.le_trans ((hadmits _).mp hleast.1) hwaited)
    rw [hphone, (admits_iff s phone).mp hthrough] at hlocked
    cases hlocked

end Lockout

namespace Database

open Lockout

/-- Half a second after the third guess the phone is told to wait for 30 seconds, and that is the
least. -/
theorem third_guess_waits :
    let phone := "+15551234567"
    let db := (ready .empty).after (.ofSecret "secret") (List.replicate 3 (guess phone 1700000000))
    let now := Instant.ofSeconds 1700000000 500000000
    ∃ s, db = .ready s ∧ ((check now phone).perform (.ready s)).1 = .error (.locked 30) ∧
      IsLeast {k : Nat | Admits s phone (now.after (.ofSeconds k))} 30 := by
  intro phone db now
  obtain ⟨s, hs, -⟩ := soundLedger_after (.ofSecret "secret")
    (List.replicate 3 (guess phone 1700000000))
  have hends : db.store?.bind (fun s => (s.ledger[phone]?).bind FailedLogins.blockedUntil) =
      some (.ofSeconds 1700000030 0) := by decide +kernel +zetaReduce
  have htold : ((check now phone).perform db).1 = .error (.locked 30) := by
    decide +kernel +zetaReduce
  rw [show db = .ready s from hs] at hends htold
  obtain ⟨-, e, til, he, hb, -, -, hleast, -⟩ := wait_least s phone now 30 htold
  have htil : some til = some (.ofSeconds 1700000030 0) := by
    rw [← hends, ← hb]
    simp [Database.store?, he]
  rw [Option.some.inj htil, if_neg (by decide)] at hleast
  exact ⟨s, hs, htold, hleast⟩

/-- Half a microsecond before a whole second has passed since the third guess, 29 seconds are told,
and after these the phone is told to wait again. -/
theorem told_to_wait_again :
    let phone := "+15551234567"
    let db := (ready .empty).after (.ofSecret "secret") (List.replicate 3 (guess phone 1700000000))
    let now := Instant.ofSeconds 1700000000 999999500
    ∃ s, db = .ready s ∧ ((check now phone).perform (.ready s)).1 = .error (.locked 29) ∧
      ((check (now.after (.ofSeconds 29)) phone).perform (.ready s)).1 = .error (.locked 1) ∧
      ¬ IsLeast {k : Nat | Admits s phone (now.after (.ofSeconds k))} 29 := by
  intro phone db now
  obtain ⟨s, hs, -⟩ := soundLedger_after (.ofSecret "secret")
    (List.replicate 3 (guess phone 1700000000))
  have htold : ((check now phone).perform db).1 = .error (.locked 29) := by
    decide +kernel +zetaReduce
  have hagain : ((check (now.after (.ofSeconds 29)) phone).perform db).1 = .error (.locked 1) := by
    decide +kernel +zetaReduce
  rw [show db = .ready s from hs] at htold hagain
  refine ⟨s, hs, htold, hagain, fun hleast => ?_⟩
  have hthrough : ((check (now.after (.ofSeconds 29)) phone).perform (.ready s)).1 = .ok () :=
    hleast.1
  rw [hagain] at hthrough
  cases hthrough

end Database

end Turnstile

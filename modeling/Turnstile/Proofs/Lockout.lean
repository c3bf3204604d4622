import Turnstile.Lockout
import Turnstile.Proofs.Actions

/-! The lockout guard as a function of one ledger entry: when it turns a phone away, what a check
that admits leaves of the entry, and what a failure makes of it. -/
namespace Turnstile

namespace Store

/-- The ledger entry of one phone changed. -/
def alterLedger (s : Store) (phone : String) (f : Option FailedLogins → Option FailedLogins) :
    Store := { s with ledger := s.ledger.alter phone f }

variable (s : Store) (phone : String)

theorem alterLedger_get (f : Option FailedLogins → Option FailedLogins) (q : String) :
    (s.alterLedger phone f).ledger[q]? =
      if q = phone then f s.ledger[phone]? else s.ledger[q]? := by
  simp only [alterLedger, Std.ExtTreeMap.getElem?_alter, Std.LawfulEqCmp.compare_eq_iff_eq]
  by_cases h : q = phone
  · simp [h]
  · simp [h, Ne.symm h]

theorem ledger_ext {l l' : Std.ExtTreeMap String FailedLogins} (h : ∀ q : String, l[q]? = l'[q]?) :
    ({ s with ledger := l } : Store) = { s with ledger := l' } := by
  rw [Std.ExtTreeMap.ext_getElem? h]

theorem alterLedger_ext {f g : Option FailedLogins → Option FailedLogins}
    (h : f s.ledger[phone]? = g s.ledger[phone]?) :
    s.alterLedger phone f = s.alterLedger phone g := by
  apply s.ledger_ext
  intro q
  rw [Std.ExtTreeMap.getElem?_alter, Std.ExtTreeMap.getElem?_alter, h]

/-- Writing an entry as it stands is no change. -/
theorem alterLedger_self {f : Option FailedLogins → Option FailedLogins}
    (h : f s.ledger[phone]? = s.ledger[phone]?) : s.alterLedger phone f = s := by
  apply s.ledger_ext
  intro q
  have hq := s.alterLedger_get phone f q
  rw [h] at hq
  refine hq.trans ?_
  split
  next he => rw [he]
  next => rfl

theorem alterLedger_alterLedger (f g : Option FailedLogins → Option FailedLogins) :
    (s.alterLedger phone f).alterLedger phone g = s.alterLedger phone (g ∘ f) := by
  apply s.ledger_ext
  intro q
  change ((s.alterLedger phone f).alterLedger phone g).ledger[q]? =
    (s.alterLedger phone _).ledger[q]?
  rw [alterLedger_get, alterLedger_get, alterLedger_get, alterLedger_get]
  by_cases hq : q = phone <;> simp [hq]

theorem purgeFailures_eq : s.purgeFailures phone = s.alterLedger phone fun _ => none := by
  apply s.ledger_ext
  intro q
  rw [Std.ExtTreeMap.getElem?_erase, Std.ExtTreeMap.getElem?_alter]

theorem setBlocked_eq (til : Option Instant) : s.setBlocked phone til =
    s.alterLedger phone (Option.map fun r => { r with blockedUntil := til }) := by
  apply s.ledger_ext
  intro q
  rw [Std.ExtTreeMap.getElem?_modify, Std.ExtTreeMap.getElem?_alter]

/-- An entry with its count raised by one. -/
def raised (phone : String) (r : Option FailedLogins) : FailedLogins :=
  let r := r.getD ⟨phone, 0, none⟩
  { r with attempts := r.attempts + 1 }

theorem countFailure_eq : countFailure phone s =
    ((raised phone s.ledger[phone]?).attempts, s.alterLedger phone (some ∘ raised phone)) := by
  refine Prod.ext rfl (s.ledger_ext fun q => ?_)
  rw [Std.ExtTreeMap.getElem?_insert, Std.ExtTreeMap.getElem?_alter]
  rfl

end Store

namespace Lockout

/-- Seconds that a phone has still to wait, if its entry locks it. -/
def lockOn? (now : Instant) (r : Option FailedLogins) : Option Nat :=
  match r.map (FailedLogins.verdict · now) with
  | some (.locked seconds) => some seconds
  | _ => none

theorem lockOn?_of_blocked {now til : Instant} {r : FailedLogins} (hb : r.blockedUntil = some til) :
    lockOn? now (some r) = if now < til then some (retryAfter (til.since now)) else none := by
  by_cases hn : now < til <;> by_cases h6 : longThreshold ≤ r.attempts <;>
    simp [lockOn?, FailedLogins.verdict, hb, hn, h6]

/-- A lock ends when it says. -/
theorem lockOn?_eq_none_iff_of_blocked {now til : Instant} {r : FailedLogins}
    (hb : r.blockedUntil = some til) : lockOn? now (some r) = none ↔ til ≤ now := by
  rw [lockOn?_of_blocked hb]
  split
  next hn => exact ⟨fun h => (nomatch h), fun h => absurd hn (Int.not_lt.mpr h)⟩
  next hn => exact ⟨fun _ => Int.not_lt.mp hn, fun _ => rfl⟩

/-- A phone that has to wait has an entry with a lock, and has to wait for its end. -/
theorem exists_blocked {now : Instant} {e : Option FailedLogins} {n : Nat}
    (h : lockOn? now e = some n) :
    ∃ r til, e = some r ∧ r.blockedUntil = some til ∧ now < til ∧
      n = retryAfter (til.since now) := by
  cases e with
  | none => cases h
  | some r =>
    cases hb : r.blockedUntil with
    | none =>
      by_cases h6 : longThreshold ≤ r.attempts <;>
        simp [lockOn?, FailedLogins.verdict, hb, h6] at h
    | some til =>
      rw [lockOn?_of_blocked hb] at h
      split at h
      next hn => exact ⟨r, til, rfl, hb, hn, (Option.some.inj h).symm⟩
      next => cases h

/-- What a check that admits leaves of an entry. -/
def settle (now : Instant) (r : Option FailedLogins) : Option FailedLogins :=
  match r.map (FailedLogins.verdict · now) with
  | some .purge => none
  | some .clear => r.map fun r => { r with blockedUntil := none }
  | _ => r

/-- No lock that is set at such a time leaves the calendar. -/
theorem Lockable.after? {now : Instant} {seconds : Int} (h : Lockable now)
    (hs : 0 ≤ seconds ∧ seconds ≤ 60) :
    now.after? (.ofSeconds seconds) = some (now.after (.ofSeconds seconds)) := by
  obtain ⟨⟨hfirst, -⟩, -, hlast⟩ := h
  refine if_pos ⟨?_, ?_⟩
  · show _ ≤ now.nanos + seconds * 1000000000
    omega
  · have hlast : now.nanos + 60 * 1000000000 < (Instant.lastSecond + 1) * 1000000000 := hlast
    show now.nanos + seconds * 1000000000 < _
    omega

/-- The entry after one more failure. -/
def charge (now : Instant) (phone : String) (r : Option FailedLogins) : FailedLogins :=
  let r := Store.raised phone r
  match lockSeconds? r.attempts with
  | some seconds => { r with blockedUntil := some (now.after (.ofSeconds seconds)) }
  | none => r

theorem perform_check_ready (now : Instant) (phone : String) (s : Store) :
    (check now phone).perform (.ready s) =
      match lockOn? now s.ledger[phone]? with
      | some seconds => (.error (.locked seconds), .ready s)
      | none => (.ok (), .ready (s.alterLedger phone (settle now))) := by
  unfold check
  rw [Action.perform_bind]
  simp only [Action.perform_query_ready, Store.failedLogins?]
  cases h : s.ledger[phone]? with
  | none =>
    have hs : s.alterLedger phone (settle now) = s := s.alterLedger_self phone (by rw [h]; rfl)
    simp [lockOn?, hs]
  | some r =>
    cases hv : FailedLogins.verdict r now with
    | locked seconds => simp [lockOn?, hv]
    | purge =>
      have hs : s.alterLedger phone (settle now) = s.alterLedger phone fun _ => none :=
        s.alterLedger_ext phone (by simp [h, settle, hv])
      simp [lockOn?, hv, hs, Store.purgeFailures_eq]
    | clear =>
      have hs : s.alterLedger phone (settle now) =
          s.alterLedger phone (Option.map fun r => { r with blockedUntil := none }) :=
        s.alterLedger_ext phone (by simp [h, settle, hv])
      simp [lockOn?, hv, hs, Store.setBlocked_eq]
    | free =>
      have hs : s.alterLedger phone (settle now) = s :=
        s.alterLedger_self phone (by simp [h, settle, hv])
      simp [lockOn?, hv, hs]

theorem perform_recordFailure_ready (now : Instant) (phone : String) (s : Store) :
    (recordFailure now phone).perform (.ready s) =
      (.ok (Store.raised phone s.ledger[phone]?).attempts,
        .ready (s.alterLedger phone (some ∘ charge now phone))) := by
  unfold recordFailure
  rw [Action.perform_bind]
  simp only [Action.perform_change_ready, Store.countFailure_eq]
  cases hl : lockSeconds? (Store.raised phone s.ledger[phone]?).attempts with
  | none =>
    have hs : s.alterLedger phone (some ∘ charge now phone) =
        s.alterLedger phone (some ∘ Store.raised phone) :=
      s.alterLedger_ext phone (by simp [charge, hl])
    simp [hs]
  | some seconds =>
    have hs : s.alterLedger phone (some ∘ charge now phone) =
        (s.alterLedger phone (some ∘ Store.raised phone)).setBlocked phone
          (some (now.after (.ofSeconds seconds))) := by
      rw [Store.setBlocked_eq, Store.alterLedger_alterLedger]
      exact s.alterLedger_ext phone (by simp [charge, hl])
    simp only [hs]
    rw [Action.perform_bind]
    rfl

end Lockout

end Turnstile

import Turnstile.Proofs.Effects

/-! Refusals leave the store intact. Whatever fails, and at whatever point, accounts, roles and
contexts stay as they were. The ledger too, but for what a login has to write there: a lock that has
run out is settled, and a wrong password is counted. -/
namespace Turnstile

namespace Lockout

/-- An entry is filed under its phone, counts up to six failures and is locked by the sixth. -/
structure Sound (phone : String) (r : FailedLogins) : Prop where
  phone_eq : r.phone = phone
  attempts_le : r.attempts ≤ 6
  locked : r.attempts = 6 → r.blockedUntil ≠ none

/-- An entry once a lock that has run out is settled: below six failures the lock is cleared, at six
the entry goes. -/
inductive Settled (now : Instant) : Option FailedLogins → Option FailedLogins → Prop where
  | absent : Settled now none none
  | unlocked (r : FailedLogins) (hb : r.blockedUntil = none) : Settled now (some r) (some r)
  | cleared (r : FailedLogins) (til : Instant) (hb : r.blockedUntil = some til) (hn : til ≤ now)
      (ha : r.attempts < 6) : Settled now (some r) (some { r with blockedUntil := none })
  | removed (r : FailedLogins) (til : Instant) (hb : r.blockedUntil = some til) (hn : til ≤ now)
      (ha : r.attempts = 6) : Settled now (some r) none

/-- One more failure of a phone that is not locked: the third and the sixth lock it. -/
def counted (now : Instant) (phone : String) (r : Option FailedLogins) : FailedLogins :=
  let attempts := r.elim 0 (·.attempts) + 1
  ⟨phone, attempts, (lockSeconds? attempts).map fun seconds => now.after (.ofSeconds seconds)⟩

variable {now : Instant} {phone : String} {r : Option FailedLogins}

theorem settled_settle (hsound : ∀ e, r = some e → Sound phone e) (h : lockOn? now r = none) :
    Settled now r (settle now r) := by
  cases r with
  | none => exact .absent
  | some r =>
    obtain ⟨-, hle, hlocked⟩ := hsound r rfl
    cases hb : r.blockedUntil with
    | none =>
      have h6 : ¬ longThreshold ≤ r.attempts := fun h6 => hlocked (Nat.le_antisymm hle h6) hb
      have hs : settle now (some r) = some r := by
        simp [settle, FailedLogins.verdict, hb, h6]
      rw [hs]
      exact .unlocked r hb
    | some til =>
      have hn : ¬ now < til := by
        intro hn
        simp [lockOn?, FailedLogins.verdict, hb, hn] at h
      by_cases h6 : longThreshold ≤ r.attempts
      · have hs : settle now (some r) = none := by
          simp [settle, FailedLogins.verdict, hb, hn, h6]
        rw [hs]
        exact .removed r til hb (Int.not_lt.mp hn) (Nat.le_antisymm hle h6)
      · have hs : settle now (some r) = some { r with blockedUntil := none } := by
          simp [settle, FailedLogins.verdict, hb, hn, h6]
        rw [hs]
        exact .cleared r til hb (Int.not_lt.mp hn) (Nat.not_le.mp h6)

namespace Settled

variable {e : Option FailedLogins}

/-- A settled entry holds no lock and leaves room for one more failure. -/
theorem sound (h : Settled now r e) (hsound : ∀ f, r = some f → Sound phone f) :
    ∀ f, e = some f → f.phone = phone ∧ f.attempts < 6 ∧ f.blockedUntil = none := by
  cases h with
  | absent | removed => nofun
  | unlocked r hb =>
    rintro _ ⟨⟩
    obtain ⟨hp, hle, hlocked⟩ := hsound r rfl
    exact ⟨hp, Nat.lt_of_le_of_ne hle fun h6 => hlocked h6 hb, hb⟩
  | cleared r til hb hn ha =>
    rintro _ ⟨⟩
    exact ⟨(hsound r rfl).phone_eq, ha, rfl⟩

theorem charge_eq (h : Settled now r e) (hsound : ∀ f, r = some f → Sound phone f) :
    charge now phone e = counted now phone e := by
  unfold charge counted Store.raised
  cases e with
  | none => cases hl : lockSeconds? 1 <;> simp [hl]
  | some f =>
    obtain ⟨hp, -, hb⟩ := h.sound hsound f rfl
    cases hl : lockSeconds? (f.attempts + 1) <;> simp [hl, hp, hb]

theorem sound_counted (h : Settled now r e) (hsound : ∀ f, r = some f → Sound phone f) :
    Sound phone (counted now phone e) := by
  have hlt : e.elim 0 (·.attempts) < 6 := by
    cases e with
    | none => decide
    | some f => exact (h.sound hsound f rfl).2.1
  refine ⟨rfl, hlt, fun h6 => ?_⟩
  unfold counted at h6 ⊢
  dsimp only at h6 ⊢
  rw [h6]
  nofun

end Settled

end Lockout

namespace Store

open Lockout

variable {s s' : Store} {c : Settings} {now : Circumstances} {o : Operation}

/-- All entries of the ledger are sound. -/
def SoundLedger (s : Store) : Prop :=
  ∀ (phone : String) r, s.ledger[phone]? = some r → Sound phone r

theorem SoundLedger.alter (h : s.SoundLedger) (phone : String)
    {f : Option FailedLogins → Option FailedLogins}
    (hf : ∀ r, f s.ledger[phone]? = some r → Sound phone r) :
    (s.alterLedger phone f).SoundLedger := by
  intro q r hr
  rw [alterLedger_get] at hr
  split at hr
  next hq =>
    subst hq
    exact hf r hr
  next => exact h q r hr

/-- A login that is let through meets an entry without a lock in force. -/
theorem SoundLedger.settled (h : s.SoundLedger) {spelling password : String}
    (hx : Authentication.Examined now.clocks.service spelling password s) :
    Settled now.clocks.service s.ledger[Phone.normalize spelling]?
      (settle now.clocks.service s.ledger[Phone.normalize spelling]?) :=
  settled_settle (h _) hx.unlocked

theorem SoundLedger.checked (h : s.SoundLedger) {spelling password : String}
    (hx : Authentication.Examined now.clocks.service spelling password s) :
    (Authentication.checked now.clocks.service spelling s).SoundLedger := by
  refine h.alter _ fun r hr => ?_
  obtain ⟨hp, ha, -⟩ := (h.settled hx).sound (h _) r hr
  exact ⟨hp, Nat.le_of_lt ha, fun h6 => absurd h6 (Nat.ne_of_lt ha)⟩

/-- What a login leaves once it was let through: its phone's entry settled. -/
theorem checked_eq (now : Instant) (spelling : String) (s : Store) :
    Authentication.checked now spelling s = s.alterLedger (Phone.normalize spelling) fun _ =>
      settle now s.ledger[Phone.normalize spelling]? :=
  s.alterLedger_ext _ rfl

/-- What a login with a wrong password leaves: its phone's entry settled and counted up. -/
theorem SoundLedger.failed_eq (h : s.SoundLedger) {spelling password : String}
    (hx : Authentication.Examined now.clocks.service spelling password s) :
    (Authentication.checked now.clocks.service spelling s).alterLedger (Phone.normalize spelling)
        (some ∘ charge now.clocks.service (Phone.normalize spelling)) =
      s.alterLedger (Phone.normalize spelling) fun _ =>
        some (counted now.clocks.service (Phone.normalize spelling)
          (settle now.clocks.service s.ledger[Phone.normalize spelling]?)) := by
  unfold Authentication.checked
  rw [alterLedger_alterLedger]
  apply alterLedger_ext
  simp only [Function.comp_apply, (h.settled hx).charge_eq (h _)]

theorem SoundLedger.event (h : s.SoundLedger) {e : Event}
    (he : (e.answer c (.ready s)).2 = .ready s') : s'.SoundLedger := by
  obtain ⟨now, o⟩ := e
  obtain ⟨answer, t, hanswer, ho⟩ := Outcome.reached c now s o
  have ht : Database.ready t = .ready s' := (congrArg Prod.snd hanswer).symm.trans he
  cases ht
  cases ho with
  | refused => exact h
  | unissued _ _ hx => exact h.checked hx
  | failed _ hx =>
    rw [h.failed_eq hx]
    exact h.alter _ fun r hr => Option.some.inj hr ▸ (h.settled hx).sound_counted (h _)
  | done heffect =>
    cases heffect with
    | login _ _ _ _ _ hx => exact h.checked hx
    | _ => exact h

end Store

namespace Database

open Store Lockout

theorem soundLedger_after (c : Settings) (events : List Event) :
    ∃ s, (ready .empty).after c events = .ready s ∧ s.SoundLedger :=
  after_induction (Q := fun _ => True) (P := fun _ => SoundLedger) (fun _ => trivial)
    (by simp [SoundLedger, Store.empty]) (fun _ _ h he => h.event he) trivial

/-- Whatever is refused after any run, and under whatever settings, the accounts with their rights and
refresh tokens, the roles and the contexts are as they were. So is the ledger, unless a login with a
well-formed phone was let through to its password: then the phone's entry is settled, and counted up
if the credentials were wrong. No login with wrong credentials goes uncounted. -/
theorem refusals_leave_store (c : Settings) (events : List Event) :
    ∃ s, (ready .empty).after c events = .ready s ∧
      ∀ (settings : Settings) (e : Event) (err : Error) (db : Database),
        e.answer settings (.ready s) = (.error err, db) →
        ∃ s', db = .ready s' ∧ s'.accounts = s.accounts ∧ s'.roles = s.roles ∧
          s'.contexts = s.contexts ∧
          ((s'.ledger = s.ledger ∧ ∀ spelling password,
              e.operation = .login spelling password → err ≠ .invalidCredentials) ∨
            ∃ spelling password entry, e.operation = .login spelling password ∧
              Phone.wellFormed (Phone.normalize spelling) = true ∧
              Settled e.serviceTime s.ledger[Phone.normalize spelling]? entry ∧
              s'.ledger = s.ledger.alter (Phone.normalize spelling) fun _ =>
                if err = .invalidCredentials then
                  some (counted e.serviceTime (Phone.normalize spelling) entry)
                else entry) := by
  obtain ⟨s, hs, h⟩ := soundLedger_after c events
  refine ⟨s, hs, fun settings e err db he => ?_⟩
  obtain ⟨now, o⟩ := e
  obtain ⟨answer, s', hanswer, ho⟩ := Outcome.reached settings now s o
  obtain ⟨rfl, rfl⟩ := Prod.mk.inj (hanswer.symm.trans he)
  refine ⟨s', rfl, ?_⟩
  cases ho with
  | refused _ hkind => exact ⟨rfl, rfl, rfl, .inl ⟨rfl, hkind⟩⟩
  | unissued hlogin e hx hne =>
    rw [checked_eq]
    refine ⟨rfl, rfl, rfl, .inr ⟨_, _, _, hlogin, hx.wellFormed, h.settled hx, ?_⟩⟩
    simp only [hne, if_false]
    rfl
  | failed hlogin hx =>
    rw [h.failed_eq hx]
    refine ⟨rfl, rfl, rfl, .inr ⟨_, _, _, hlogin, hx.wellFormed, h.settled hx, ?_⟩⟩
    simp only [if_true]
    rfl

/-- A wrong password after a lock of 30 seconds has run out: the lock is gone, the failure is the
fourth, and no account was touched. -/
theorem fourth_failure_only_counted :
    let c := Settings.ofSecret "secret"
    let now (seconds : Int) : Circumstances :=
      ⟨⟨.ofSeconds seconds 0, .ofSeconds seconds 0⟩, ⟨⟨1⟩, [], []⟩⟩
    let events : List Event :=
      ⟨now 0, .register ⟨"+15551234567", none, "Passw0rd!", none, none⟩⟩ ::
        [1, 2, 3].map fun t => ⟨now t, .login "+1 555 9999999" "guess"⟩
    let e : Event := ⟨now 33, .login "+15559999999" "guess"⟩
    ∃ s s', (ready .empty).after c events = .ready s ∧
      e.answer c (.ready s) = (.error .invalidCredentials, .ready s') ∧
      s'.accounts = s.accounts ∧
      s'.ledger["+15559999999"]? = some ⟨"+15559999999", 4, none⟩ := by
  intro c now events e
  obtain ⟨s, hs, hrefused⟩ := refusals_leave_store c events
  have hanswer : (e.answer c ((ready .empty).after c events)).1 = .error .invalidCredentials := by
    decide +kernel
  have hentry : ((e.answer c ((ready .empty).after c events)).2.store?.bind
      fun s => s.ledger["+15559999999"]?) = some ⟨"+15559999999", 4, none⟩ := by decide +kernel
  rw [hs] at hanswer hentry
  obtain ⟨s', hs', haccounts, -⟩ := hrefused c e _ (e.answer c (.ready s)).2 (Prod.ext hanswer rfl)
  rw [hs'] at hentry
  exact ⟨s, s', hs, Prod.ext hanswer hs', haccounts, hentry⟩

end Database

end Turnstile

import Turnstile.Proofs.Phones
import Turnstile.Proofs.Refusals
import Turnstile.Proofs.Throttling

/-! What the ledger of failed logins holds, and what callers are told of it. Only a login meets the
guard, and it checks the phone before it counts a failure. So every entry stands for one to six
failures of a well-formed phone, with a lock where the third and the sixth call for one. -/
namespace Turnstile

/-! Who is told to wait. -/

/-- A check that only finds its input invalid does not say that a phone is locked. -/
theorem Action.Avoids.check {α : Type} {x : Except Error α}
    (hx : ∀ e, x = .error e → e.kind = .validation) :
    (MonadLiftT.monadLift x : Action α).Avoids .locked := by
  apply Action.Avoids.liftM
  intro e he
  rw [hx e he]
  decide

namespace Operation

open Turnstile.Action

theorem avoids_register (wall : Instant) (id : Uuid) (salt : Bytes) (r : Registration) :
    (Authentication.register wall id salt r).Avoids .locked := by
  have hvalid : ∀ e, Authentication.Registration.validate r = .error e → e.kind = .validation := by
    intro e he
    obtain ⟨message, rfl⟩ := Authentication.Registration.exists_validation he
    rfl
  refine .bind (.check hvalid) fun _ => .bind (.query (by decide) _) fun _ => .guarded nofun ?_
  exact .bind (Store.avoids_insertAccount (by decide) _ _) fun _ => .pure _

theorem avoids_refresh (c : Settings) (clocks : Clocks) (random : Bytes) (token : String) :
    (Authentication.refresh c clocks random token).Avoids .locked := by
  refine .guarded nofun <| .bind (.query (by decide) _) fun _ => .bind (.found nofun) fun _ =>
    .bind (.query (by decide) _) fun _ => .bind (.found nofun) fun _ => ?_
  apply Authentication.avoids_session (by decide) fun _ => Settings.kind_of_lifetime
  intro pair t
  exact .bind (.change (by decide) _) fun _ => .bind (.require nofun) fun _ => .pure _

theorem avoids_edit (wall : Instant) (salt : Bytes) (id : Uuid) (phone password : String) :
    (Profiles.edit wall salt id phone password).Avoids .locked := by
  have hphone : ∀ e, Phone.validate (Phone.normalize phone) = .error e → e.kind = .validation :=
    fun e he => (Phone.validate_eq_error_iff.mp he).2 ▸ rfl
  have hpassword : ∀ e, Password.validate password = .error e → e.kind = .validation := by
    intro e he
    obtain ⟨message, rfl⟩ := Password.exists_validation he
    rfl
  refine .bind (.check hphone) fun _ => .bind (.check hpassword) fun _ => ?_
  exact .bind (Store.avoids_updateCredentials (by decide) _ _ _ _) fun _ =>
    .bind (.require nofun) fun _ => .bind (.query (by decide) _) fun _ => .found nofun

theorem avoids_grant (user : Uuid) (q : Rights.Request) : (Grants.grant user q).Avoids .locked := by
  refine .bind (.check fun _ => Rights.kind_of_parseCompact) fun r => ?_
  refine .bind (.change (by decide) _) fun _ => .ite (.pure r) ?_
  refine .bind (.query (by decide) _) fun held => ?_
  cases held
  · exact .throw nofun
  · exact .throw nofun

theorem avoids_revoke (user : Uuid) (q : Rights.Request) :
    (Grants.revoke user q).Avoids .locked := by
  refine .bind (.check fun _ => Rights.kind_of_parse) fun revoked => ?_
  apply Store.avoids_updateRights (by decide)
  intro own e he
  rw [Rights.kind_of_revoke he]
  decide

theorem avoids_addContext (user : Uuid) (merchant : Option String) (isGlobal : Bool) :
    (Scoping.add user merchant isGlobal).Avoids .locked := by
  have hget : (Scoping.get user).Avoids .locked := .bind (.query (by decide) _) fun _ => .pure _
  apply Action.Avoids.ite
  · exact .bind (Store.avoids_setGlobal (by decide) _ _) fun _ => hget
  · exact .bind (.require nofun) fun _ =>
      .bind (Store.avoids_addMerchant (by decide) _ _) fun _ => hget

/-- Only a login is told that a phone is locked. -/
theorem avoids_locked {o : Operation} (ho : ∀ phone password, o ≠ .login phone password)
    (c : Settings) (now : Circumstances) : (o.action c now).Avoids .locked := by
  cases o with
  | register r => exact .map _ (avoids_register _ _ _ r)
  | login phone password => exact absurd rfl (ho phone password)
  | refresh token => exact .map _ (avoids_refresh c _ _ token)
  | logout token =>
    exact .map _ (.guarded nofun (.bind (.change (by decide) _) fun _ => .require nofun))
  | editUser user phone password => exact .map _ (avoids_edit _ _ user phone password)
  | getUser | getUserRights | getRoleRights =>
    exact .map _ (.bind (.query (by decide) _) fun _ => .found nofun)
  | grant user q => exact .map _ (avoids_grant user q)
  | editRights user q =>
    exact .map _ (.bind (.check fun _ => Rights.kind_of_parseCompact) fun _ =>
      .bind (.change (by decide) _) fun _ => .bind (.require nofun) fun _ => .pure _)
  | revoke user q => exact .map _ (avoids_revoke user q)
  | assign user role merge =>
    refine .map _ (.bind (.query (by decide) _) fun _ => .bind (.found nofun) fun r => ?_)
    apply Store.avoids_updateRights (by decide)
    intro own e he
    cases he
  | addRole q =>
    exact .map _ (.bind (.check fun _ => RoleRequest.kind_of_validate) fun r =>
      .bind (Store.avoids_insertRole (by decide) r) fun _ => .pure r)
  | editRole id q =>
    exact .map _ (.bind (.check fun _ => RoleRequest.kind_of_validate) fun r =>
      .bind (Store.avoids_updateRole (by decide) r) fun _ =>
      .bind (.require nofun) fun _ => .pure r)
  | deleteRole => exact .map _ (.bind (.change (by decide) _) fun _ => .require nofun)
  | getRoles => exact .map _ (.query (by decide) _)
  | addContext user merchant isGlobal => exact .map _ (avoids_addContext user merchant isGlobal)
  | editContext =>
    exact .map _ (.bind (Store.avoids_setGlobal (by decide) _ _) fun _ =>
      .bind (.query (by decide) _) fun _ => .pure _)
  | getContexts => exact .map _ (.bind (.query (by decide) _) fun _ => .pure _)
  | deleteContext =>
    exact .map _ (.guarded nofun (.bind (.change (by decide) _) fun _ => .require nofun))
  | deleteContexts => exact .map _ (.change (by decide) _)

end Operation

/-- A login that is told to wait finds the phone's entry locked for as long. -/
theorem Event.lockOn?_of_login {c : Settings} {now : Circumstances} {phone password : String}
    {s : Store} {n : Nat}
    (h : (Event.answer c ⟨now, .login phone password⟩ (.ready s)).1 = .error (.locked n)) :
    Lockout.lockOn? now.clocks.service s.ledger[Phone.normalize phone]? = some n := by
  obtain ⟨answer, s', hanswer, hlogin⟩ :=
    Authentication.login_outcome c now.clocks now.entropy.token phone password s
  have hlocked : answer = .error (.locked n) := by
    have hperform : Event.answer c ⟨now, .login phone password⟩ (.ready s) = _ :=
      Action.perform_map ..
    rw [hperform, hanswer] at h
    cases answer with
    | ok pair => cases h
    | error e => exact congrArg Except.error (Except.error.inj h)
  cases hlogin with
  | refused | failed => cases hlocked
  | locked seconds _ hl =>
    cases hlocked
    exact hl
  | unissued e a _ _ hs =>
    cases hlocked
    have hkind := Authentication.kind_of_session (fun _ => Settings.kind_of_lifetime) hs
    cases hkind
  | admitted a pair g =>
    unfold Store.saveRefresh at hlocked
    split at hlocked <;> cases hlocked

/-- Whoever is told to wait asked for a login, and the phone's entry locks it for as long. -/
theorem Event.lockOn?_of_locked {c : Settings} {e : Event} {s : Store} {n : Nat}
    (h : (e.answer c (.ready s)).1 = .error (.locked n)) :
    ∃ phone : String, Lockout.lockOn? e.serviceTime s.ledger[phone]? = some n := by
  obtain ⟨now, o⟩ := e
  by_cases ho : ∃ phone password, o = .login phone password
  · obtain ⟨phone, password, rfl⟩ := ho
    exact ⟨Phone.normalize phone, Event.lockOn?_of_login h⟩
  · have hother : ∀ phone password, o ≠ .login phone password :=
      fun phone password he => ho ⟨phone, password, he⟩
    exact absurd rfl (Operation.avoids_locked hother c now (.ready s) _ h)

namespace Lockout

variable {fs : List Instant} {now til : Instant} {phone : String} {r : FailedLogins} {n : Nat}

/-- The seconds to wait for an end that is at most a minute away. -/
theorem retryAfter_bounds (h : til ≤ now.after (.ofSeconds 60)) :
    1 ≤ retryAfter (til.since now) ∧ retryAfter (til.since now) ≤ 60 := by
  have hle : til.nanos - now.nanos ≤ 60 * 1000000000 := by
    have h : til.nanos ≤ now.nanos + 60 * 1000000000 := h
    omega
  have hmillis : (til.since now).millis ≤ 60000 := by
    show (til.nanos - now.nanos).tdiv 1000000 ≤ 60000
    exact Int.tdiv_le_tdiv (by decide) hle
  unfold retryAfter
  omega

/-- An entry of the ledger at a given time. It is filed under its phone, which is well formed, and
stands for one to six failures. The third may still lock the phone, for 30 seconds at most, and the
sixth has locked it, for 60 seconds at most; no other does. Every lock ends within the calendar. -/
structure Entry (now : Instant) (phone : String) (r : FailedLogins) : Prop where
  filed : r.phone = phone
  normal : Phone.normalize phone = phone
  accepted : Phone.validate phone = .ok ()
  attempts : 1 ≤ r.attempts ∧ r.attempts ≤ 6
  free : r.attempts ∈ [1, 2, 4, 5] → r.blockedUntil = none
  short : r.attempts = 3 → ∀ til, r.blockedUntil = some til → til ≤ now.after (.ofSeconds 30)
  long : r.attempts = 6 → ∃ til, r.blockedUntil = some til ∧ til ≤ now.after (.ofSeconds 60)
  ending : ∀ til, r.blockedUntil = some til → til.Representable

theorem Entry.blockedUntil_le (h : Entry now phone r) (hb : r.blockedUntil = some til) :
    til ≤ now.after (.ofSeconds 60) := by
  obtain ⟨-, -, -, hattempts, hfree, hshort, hlong, -⟩ := h
  by_cases h3 : r.attempts = 3
  · have hle : til.nanos ≤ now.nanos + 30 * 1000000000 := hshort h3 til hb
    show til.nanos ≤ now.nanos + 60 * 1000000000
    omega
  by_cases h6 : r.attempts = 6
  · obtain ⟨til', hb', hle⟩ := hlong h6
    rw [hb] at hb'
    cases hb'
    exact hle
  · have hmem : r.attempts ∈ [1, 2, 4, 5] := by
      simp only [List.mem_cons, List.not_mem_nil, or_false]
      omega
    rw [hfree hmem] at hb
    cases hb

/-- A phone whose entry, if it has one, is such is told to wait a minute at most. -/
theorem lockOn?_bounds {e : Option FailedLogins} (h : ∀ r, e = some r → Entry now phone r)
    (hl : lockOn? now e = some n) : 1 ≤ n ∧ n ≤ 60 := by
  obtain ⟨r, til, rfl, hb, -, rfl⟩ := exists_blocked hl
  exact retryAfter_bounds ((h r rfl).blockedUntil_le hb)

/-- Every wait that begins at such a time ends within the calendar. -/
theorem representable_waitAfter {t : Instant} (h : Lockable t) (count : Nat) :
    (t.after (waitAfter count)).Representable := by
  have hend {seconds : Int} (hs : 0 ≤ seconds ∧ seconds ≤ 60) :
      (t.after (.ofSeconds seconds)).Representable := by
    by_contra hno
    have hafter := h.after? hs
    rw [Instant.after?, if_neg hno] at hafter
    cases hafter
  unfold waitAfter
  split
  · exact hend (by decide)
  · split <;> exact hend (by decide)

theorem Fits.entry (h : Fits fs now (some r)) (hpast : ∀ t ∈ fs, t ≤ now)
    (hlockable : ∀ t ∈ fs, Lockable t) (hfiled : r.phone = phone)
    (hphone : Phone.validate phone = .ok ()) : Entry now phone r := by
  have hnormal := Phone.normalize_of_wellFormed (Phone.validate_eq_ok_iff.mp hphone)
  cases h with
  | counting _ hcount hpos hb =>
    have hlt : fs.length % 6 < 6 := Nat.mod_lt _ (by decide)
    have hnone {p : Instant → Prop} : ∀ til, r.blockedUntil = some til → p til := by
      rw [hb]
      nofun
    exact ⟨hfiled, hnormal, hphone, by omega, fun _ => hb, fun _ => hnone, by omega, hnone⟩
  | blocked _ t hlast hcount hb =>
    have ht : t.nanos ≤ now.nanos := hpast t (List.mem_of_getLast? hlast)
    -- The lock began with the last failure, which does not lie ahead of the clock.
    have hle (seconds : Int) : t.after (.ofSeconds seconds) ≤ now.after (.ofSeconds seconds) :=
      Int.add_le_add_right ht _
    refine ⟨hfiled, hnormal, hphone, by omega, fun hmem => ?_, fun h3 til htil => ?_,
      fun h6 => ?_, fun til htil => ?_⟩
    · simp only [List.mem_cons, List.not_mem_nil, or_false] at hmem
      omega
    · have hwait : waitAfter fs.length = .ofSeconds 30 := if_pos (by omega)
      rw [hb, hwait] at htil
      cases htil
      exact hle 30
    · have hmod : fs.length % 6 = 0 := by omega
      have hwait : waitAfter fs.length = .ofSeconds 60 := by simp [waitAfter, hmod]
      rw [hwait] at hb
      exact ⟨_, hb, hle 60⟩
    · rw [hb] at htil
      cases htil
      exact representable_waitAfter (hlockable t (List.mem_of_getLast? hlast)) _

/-- The sixth failure is the last one, and the lock lasts 60 seconds from it. -/
theorem Fits.blockedUntil_of_six (h : Fits fs now (some r)) (h6 : r.attempts = 6) :
    ∃ t, fs.getLast? = some t ∧ r.blockedUntil = some (t.after (.ofSeconds 60)) := by
  cases h with
  | counting _ hcount =>
    have hlt : fs.length % 6 < 6 := Nat.mod_lt _ (by decide)
    omega
  | blocked _ t hlast hcount hb =>
    have hmod : fs.length % 6 = 0 := by omega
    have hwait : waitAfter fs.length = .ofSeconds 60 := by simp [waitAfter, hmod]
    rw [hwait] at hb
    exact ⟨t, hlast, hb⟩

/-- Whoever a check turns away is told the wait of the phone's entry. -/
theorem lockOn?_of_check {s : Store}
    (h : ((check now phone).perform (.ready s)).1 = .error (.locked n)) :
    lockOn? now s.ledger[phone]? = some n := by
  rw [perform_check_ready] at h
  cases hl : lockOn? now s.ledger[phone]? with
  | none =>
    rw [hl] at h
    cases h
  | some seconds =>
    rw [hl] at h
    cases h
    rfl

/-- A check takes an entry out of the ledger only when its lock of 60 seconds has run out. -/
theorem blockedUntil_of_purged {s s' : Store} {checked : String} {answer : Except Error Unit}
    (hsound : s.SoundLedger) (hr : s.ledger[phone]? = some r)
    (hcheck : (check now checked).perform (.ready s) = (answer, .ready s'))
    (hgone : s'.ledger[phone]? = none) :
    r.attempts = 6 ∧ ∃ til, r.blockedUntil = some til ∧ til ≤ now := by
  rw [perform_check_ready] at hcheck
  cases hl : lockOn? now s.ledger[checked]? with
  | some seconds =>
    rw [hl] at hcheck
    cases hcheck
    rw [hr] at hgone
    cases hgone
  | none =>
    rw [hl] at hcheck
    cases hcheck
    rw [Store.alterLedger_get] at hgone
    by_cases hphone : phone = checked
    · subst hphone
      rw [if_pos rfl, hr] at hgone
      rw [hr] at hl
      have hsound : ∀ e, some r = some e → Sound phone e := by
        rintro _ ⟨⟩
        exact hsound phone r hr
      have hsettled := settled_settle hsound hl
      rw [hgone] at hsettled
      cases hsettled with
      | removed _ til hb hn h6 => exact ⟨h6, til, hb, hn⟩
    · rw [if_neg hphone, hr] at hgone
      cases hgone

end Lockout

namespace Database

open Lockout

/-- Where the ledger stands after a run: each entry fits the failures of its phone, and keeps fitting
them as time goes on. -/
theorem ledger_after (c : Settings) {events : List Event}
    (hc : events.Pairwise fun e f => e.serviceTime ≤ f.serviceTime)
    (hl : ∀ e ∈ events, Lockable e.serviceTime) :
    ∃ s, (ready .empty).after c events = .ready s ∧ s.SoundLedger ∧
      ∀ now, (∀ e ∈ events, e.serviceTime ≤ now) → ∀ (phone : String) r,
        s.ledger[phone]? = some r →
        Fits (failures phone ((ready .empty).moments c events)) now (some r) ∧
          Entry now phone r := by
  obtain ⟨s, hs, hsound⟩ := soundLedger_after c events
  have hbrought : ∀ e ∈ events, Store.Brings (Phone.validate · = .ok ()) e :=
    fun e _ spelling _ hwell => Phone.validate_eq_ok_iff.mpr hwell
  obtain ⟨t, ht, hphones⟩ := phones_after c hbrought
  obtain rfl : t = s := Database.ready.inj (ht.symm.trans hs)
  refine ⟨t, hs, hsound, fun now hnow phone r hr => ?_⟩
  obtain ⟨u, hu, hthrottled⟩ := throttled_after c phone hc
  obtain rfl : u = t := Database.ready.inj (hu.symm.trans hs)
  have htimes : ∀ i ∈ events.map Event.serviceTime, i ≤ now := by
    intro i hi
    obtain ⟨e, he, rfl⟩ := List.mem_map.mp hi
    exact hnow e he
  have hfits := hthrottled.fits now htimes
  rw [hr] at hfits
  have hpast : ∀ i ∈ failures phone ((ready .empty).moments c events), i ≤ now :=
    fun i hi => htimes i (hthrottled.past i hi)
  have hlockable : ∀ i ∈ failures phone ((ready .empty).moments c events), Lockable i := by
    intro i hi
    obtain ⟨e, he, rfl⟩ := List.mem_map.mp (hthrottled.past i hi)
    exact hl e he
  exact ⟨hfits,
    hfits.entry hpast hlockable (hsound phone r hr).phone_eq (hphones.ledger phone r hr)⟩

/-- After every run whose clock never goes back and stays a minute within the calendar, and from
then on: every entry of the ledger is filed under its own phone, which is well formed, and stands for
one to six failures, with a lock only where the third failure may have left one and the sixth has; a
check takes an entry out only when 60 seconds have passed since the sixth failure; and whoever is told
to wait is told to wait for 1 to 60 seconds. -/
theorem ledger_entries_bounded (c : Settings) {events : List Event}
    (hc : events.Pairwise fun e f => e.serviceTime ≤ f.serviceTime)
    (hl : ∀ e ∈ events, Lockable e.serviceTime) :
    ∃ s, (ready .empty).after c events = .ready s ∧
      ∀ now, (∀ e ∈ events, e.serviceTime ≤ now) →
        (∀ (phone : String) r, s.ledger[phone]? = some r → Entry now phone r) ∧
        (∀ (phone checked : String) r answer s', s.ledger[phone]? = some r →
          (check now checked).perform (.ready s) = (answer, .ready s') →
          s'.ledger[phone]? = none →
          r.attempts = 6 ∧ ∃ t,
            (failures phone ((ready .empty).moments c events)).getLast? = some t ∧
            r.blockedUntil = some (t.after (.ofSeconds 60)) ∧ t.after (.ofSeconds 60) ≤ now) ∧
        (∀ phone n, ((check now phone).perform (.ready s)).1 = .error (.locked n) →
          1 ≤ n ∧ n ≤ 60) ∧
        ∀ (settings : Settings) (e : Event) n, e.serviceTime = now →
          (e.answer settings (.ready s)).1 = .error (.locked n) → 1 ≤ n ∧ n ≤ 60 := by
  obtain ⟨s, hs, hsound, hledger⟩ := ledger_after c hc hl
  refine ⟨s, hs, fun now hnow => ?_⟩
  have hentry (phone : String) r (hr : s.ledger[phone]? = some r) : Entry now phone r :=
    (hledger now hnow phone r hr).2
  refine ⟨hentry, ?_, ?_, ?_⟩
  · intro phone checked r answer s' hr hcheck hgone
    obtain ⟨h6, til, hb, hn⟩ := blockedUntil_of_purged hsound hr hcheck hgone
    obtain ⟨t, hlast, hb'⟩ := (hledger now hnow phone r hr).1.blockedUntil_of_six h6
    rw [hb] at hb'
    cases hb'
    exact ⟨h6, t, hlast, hb, hn⟩
  · intro phone n hcheck
    exact lockOn?_bounds (hentry phone) (lockOn?_of_check hcheck)
  · rintro settings e n rfl hanswer
    obtain ⟨phone, hl⟩ := Event.lockOn?_of_locked hanswer
    exact lockOn?_bounds (hentry phone) hl

/-- Six guesses as fast as the locks allow, the last after 34 seconds: a login 10 seconds later is told
to wait, and a check after 94 seconds takes the entry out. -/
theorem sixth_guess_purged :
    let c := Settings.ofSecret "secret"
    let phone := "+15551234567"
    let guesses := [0, 1, 2, 32, 33, 34].map (guess phone)
    ∃ s r s', (ready .empty).after c guesses = .ready s ∧ s.ledger[phone]? = some r ∧
      Entry (.ofSeconds 94 0) phone r ∧ r.attempts = 6 ∧
      (check (.ofSeconds 94 0) phone).perform (.ready s) = (.ok (), .ready s') ∧
      s'.ledger[phone]? = none ∧
      ∃ n, ((guess phone 44).answer c (.ready s)).1 = .error (.locked n) ∧ 1 ≤ n ∧ n ≤ 60 := by
  intro c phone guesses
  have hclock : guesses.Pairwise fun e f => e.serviceTime ≤ f.serviceTime := by decide
  have hlockable : ∀ e ∈ guesses, Lockable e.serviceTime := by decide
  obtain ⟨s, hs, h⟩ := ledger_entries_bounded c hclock hlockable
  have hentry : (((ready .empty).after c guesses).store?.bind fun s => s.ledger[phone]?) =
      some ⟨phone, 6, some (.ofSeconds 94 0)⟩ := by decide +kernel
  have hlocked : ((guess phone 44).answer c ((ready .empty).after c guesses)).1 =
      .error (.locked 50) := by decide +kernel
  rw [hs] at hentry hlocked
  have hr : s.ledger[phone]? = some ⟨phone, 6, some (.ofSeconds 94 0)⟩ := hentry
  obtain ⟨s', hcheck, hgone⟩ : ∃ s', (check (.ofSeconds 94 0) phone).perform (.ready s) =
      (.ok (), .ready s') ∧ s'.ledger[phone]? = none := by
    rw [perform_check_ready, hr]
    refine ⟨_, rfl, ?_⟩
    rw [Store.alterLedger_get, if_pos rfl, hr]
    decide
  obtain ⟨hentries, hpurged, -, -⟩ := h (.ofSeconds 94 0) (by decide)
  obtain ⟨h6, -⟩ := hpurged phone phone _ _ s' hr hcheck hgone
  obtain ⟨-, -, -, hbounds⟩ := h (.ofSeconds 44 0) (by decide)
  exact ⟨s, _, s', hs, hr, hentries phone _ hr, h6, hcheck, hgone, 50, hlocked,
    hbounds c (guess phone 44) 50 rfl hlocked⟩

end Database

end Turnstile

import Turnstile.Authentication
import Turnstile.Proofs.Lockout
import Turnstile.Proofs.Outcomes

/-! Registering, logging in, refreshing and logging out on a store that answers, each as one
equation: what it answers and the store it leaves. -/
namespace Turnstile

theorem Phone.validate_eq_error_iff {phone : String} {e : Error} :
    Phone.validate phone = .error e ↔
      Phone.wellFormed phone = false ∧ .validation "phone must be in E.164 format" = e := by
  unfold Phone.validate
  split <;> simp_all

namespace Settings

/-- At least one minute, and no more of them than 64 bits hold milliseconds. -/
def Usable (minutes : Int) : Prop := 1 ≤ minutes ∧ minutes * 60 * 1000 ≤ Duration.maxMillis

instance (minutes : Int) : Decidable (Usable minutes) := inferInstanceAs (Decidable (_ ∧ _))

theorem lifetime_eq (what : String) (minutes : Int) :
    lifetime what minutes =
      if Usable minutes then .ok (.ofMinutes minutes)
      else .error (.internal s!"invalid {what} lifetime: {minutes} minutes") := by
  have hiff : Usable minutes ↔ (-Duration.maxMillis ≤ minutes * 60000 ∧
      minutes * 60000 ≤ Duration.maxMillis) ∧ 0 < (Duration.ofMinutes minutes).nanos := by
    simp only [Usable, Duration.maxMillis, Duration.ofMinutes, Duration.ofSeconds]
    omega
  unfold lifetime Duration.ofMinutes?
  by_cases hfits : -Duration.maxMillis ≤ minutes * 60000 ∧ minutes * 60000 ≤ Duration.maxMillis
  · by_cases hpos : 0 < (Duration.ofMinutes minutes).nanos <;>
      simp [hiff, hfits, hpos, Option.filter_some]
  · simp only [hiff, hfits, false_and, if_false, Option.filter_none]

theorem lifetime_eq_ok_iff {what : String} {minutes : Int} {d : Duration} :
    lifetime what minutes = .ok d ↔ Usable minutes ∧ d = .ofMinutes minutes := by
  rw [lifetime_eq]
  by_cases h : Usable minutes <;> simp [h, eq_comm]

theorem internal_of_lifetime {what : String} {minutes : Int} {e : Error}
    (h : lifetime what minutes = .error e) : ∃ message, e = .internal message := by
  rw [lifetime_eq] at h
  split at h
  next => cases h
  next =>
    cases h
    exact ⟨_, rfl⟩

theorem kind_of_lifetime {what : String} {minutes : Int} {e : Error}
    (h : lifetime what minutes = .error e) : e.kind = .internal := by
  obtain ⟨_, rfl⟩ := internal_of_lifetime h
  rfl

end Settings

namespace Authentication

theorem expiry_eq_ok {now t : Instant} {lifetime : Duration} :
    expiry now lifetime = .ok t ↔ (now.after lifetime).Representable ∧ t = now.after lifetime := by
  unfold expiry Instant.after?
  by_cases h : (now.after lifetime).Representable <;> simp [h, eq_comm]

theorem internal_of_expiry {now : Instant} {lifetime : Duration} {e : Error}
    (h : expiry now lifetime = .error e) : ∃ message, e = .internal message := by
  unfold expiry at h
  split at h
  next => cases h
  next =>
    cases h
    exact ⟨_, rfl⟩

theorem kind_of_expiry {now : Instant} {lifetime : Duration} {e : Error}
    (h : expiry now lifetime = .error e) : e.kind = .internal := by
  obtain ⟨_, rfl⟩ := internal_of_expiry h
  rfl

/-- Only an empty secret keeps a pair from being issued. -/
theorem issuePair_eq_ok {secret : String} (h : secret ≠ "") (wall : Instant) (random : Bytes)
    (a : Account) (lifetime : Duration) :
    ∃ access, issuePair secret wall random a lifetime =
      .ok ⟨access, Token.Refresh.ofBytes random⟩ := by
  simp [issuePair, Token.issue, Token.sign, h, bind, Except.bind, pure, Except.pure]

theorem refresh_of_issuePair {secret : String} {wall : Instant} {random : Bytes} {a : Account}
    {lifetime : Duration} {pair : TokenPair}
    (h : issuePair secret wall random a lifetime = .ok pair) :
    pair.refresh = Token.Refresh.ofBytes random := by
  obtain ⟨access, -, hpair⟩ := ok_of_bind h
  cases hpair
  rfl

theorem kind_of_issuePair {secret : String} {wall : Instant} {random : Bytes} {a : Account}
    {lifetime : Duration} {e : Error} (h : issuePair secret wall random a lifetime = .error e) :
    e.kind = .internal := by
  by_cases hs : secret = ""
  · simp only [issuePair, Token.issue, Token.sign, hs, if_true, bind, Except.bind,
      Except.error.injEq] at h
    exact h ▸ rfl
  · obtain ⟨access, hok⟩ := issuePair_eq_ok hs wall random a lifetime
    rw [hok] at h
    cases h

/-- The tokens of a new session, and what the store is to keep of them. -/
def session (c : Settings) (clocks : Clocks) (random : Bytes) (access : Except Error Duration)
    (a : Account) : Except Error (TokenPair × RefreshGrant) := do
  let pair ← issuePair c.secret clocks.wall random a (← access)
  let expiresAt ← expiry clocks.service (← c.refreshLifetime)
  return (pair, ⟨Token.Refresh.digest pair.refresh, expiresAt⟩)

/-- What is kept of a session is the digest of its token and a lifetime from now. -/
theorem grant_of_session {c : Settings} {clocks : Clocks} {random : Bytes}
    {access : Except Error Duration} {a : Account} {lifetime : Duration} {pair : TokenPair}
    {g : RefreshGrant} (hl : c.refreshLifetime = .ok lifetime)
    (h : session c clocks random access a = .ok (pair, g)) :
    pair.refresh = Token.Refresh.ofBytes random ∧
      g = ⟨Token.Refresh.digest pair.refresh, clocks.service.after lifetime⟩ := by
  obtain ⟨d, -, h⟩ := ok_of_bind h
  obtain ⟨pair', hpair, h⟩ := ok_of_bind h
  obtain ⟨lifetime', hl', h⟩ := ok_of_bind h
  rw [hl] at hl'
  cases hl'
  obtain ⟨t, ht, h⟩ := ok_of_bind h
  cases h
  exact ⟨refresh_of_issuePair hpair, by rw [(expiry_eq_ok.mp ht).2]⟩

/-- What keeps a session from being issued is never the caller's fault. -/
theorem kind_of_session {c : Settings} {clocks : Clocks} {random : Bytes}
    {access : Except Error Duration} {a : Account} {e : Error}
    (ha : ∀ e, access = .error e → e.kind = .internal)
    (h : session c clocks random access a = .error e) : e.kind = .internal := by
  rcases error_of_bind h with h | ⟨d, -, h⟩
  · exact ha e h
  rcases error_of_bind h with h | ⟨pair, -, h⟩
  · exact kind_of_issuePair h
  rcases error_of_bind h with h | ⟨lifetime, -, h⟩
  · exact Settings.kind_of_lifetime h
  rcases error_of_bind h with h | ⟨t, -, h⟩
  · exact kind_of_expiry h
  · cases h

theorem perform_register_ready (wall : Instant) (id : Uuid) (salt : Bytes) (r : Registration)
    (s : Store) :
    (register wall id salt r).perform (.ready s) =
      match Registration.validate r with
      | .error e => (.error e, .ready s)
      | .ok () =>
        let (done, s') := s.insertAccount (Registration.account r id salt) wall
        (done.map fun _ => id, .ready s') := by
  unfold register
  rw [Action.perform_bind, Action.perform_liftM]
  cases Registration.validate r with
  | error e => rfl
  | ok u =>
    -- The look before the insertion refuses exactly what the insertion would refuse.
    cases ht : s.accountExists (Phone.normalize r.phone) (Email.normalize r.email) <;>
      simp [Action.perform_bind, Action.perform_map, ht, Store.insertAccount, Registration.account,
        Except.map]

theorem perform_logout_ready {token : String} (h : token ≠ "") (s : Store) :
    (logout token).perform (.ready s) =
      let (revoked, s') := s.revokeRefresh (Token.Refresh.digest token)
      (if revoked then .ok () else .error .invalidRefreshToken, .ready s') := by
  simp [logout, h, Action.perform_bind]

/-- Issuing the tokens of a session is one step: it answers them or stops the action. -/
theorem perform_session {α : Type} (c : Settings) (clocks : Clocks) (random : Bytes)
    (access : Except Error Duration) (a : Account) (k : TokenPair → RefreshGrant → Action α)
    (db : Database) :
    (do
      let pair ← issuePair c.secret clocks.wall random a (← access)
      let expiresAt ← expiry clocks.service (← c.refreshLifetime)
      k pair ⟨Token.Refresh.digest pair.refresh, expiresAt⟩ : Action α).perform db =
    match session c clocks random access a with
    | .error e => (.error e, db)
    | .ok (pair, g) => (k pair g).perform db := by
  unfold session
  rw [Action.perform_bind, Action.perform_liftM]
  cases access with
  | error e => rfl
  | ok d =>
    dsimp only
    rw [Action.perform_bind, Action.perform_liftM]
    cases hp : issuePair c.secret clocks.wall random a d with
    | error e => simp [hp, bind, Except.bind]
    | ok pair =>
      dsimp only
      rw [Action.perform_bind, Action.perform_liftM]
      cases c.refreshLifetime with
      | error e => simp [hp, bind, Except.bind]
      | ok lifetime =>
        dsimp only
        rw [Action.perform_bind, Action.perform_liftM]
        cases he : expiry clocks.service lifetime <;>
          simp [hp, he, bind, Except.bind, pure, Except.pure]

theorem perform_refresh_ready {token : String} (h : token ≠ "") (c : Settings) (clocks : Clocks)
    (random : Bytes) (s : Store) :
    (refresh c clocks random token).perform (.ready s) =
      match (s.refreshOwner? (Token.Refresh.digest token) clocks.service).bind s.account? with
      | none => (.error .invalidRefreshToken, .ready s)
      | some a =>
        match session c clocks random c.grantLifetime a with
        | .error e => (.error e, .ready s)
        | .ok (pair, g) =>
          let (rotated, s') := s.rotateRefresh a.id (Token.Refresh.digest token) g
          (if rotated then .ok pair else .error .invalidRefreshToken, .ready s') := by
  unfold refresh
  simp only [h, if_false]
  rw [Action.perform_bind, Action.perform_query_ready]
  cases ho : s.refreshOwner? (Token.Refresh.digest token) clocks.service with
  | none => rfl
  | some owner =>
    dsimp only
    rw [Action.perform_bind, Action.perform_found]
    dsimp only [Option.elim, Option.bind]
    rw [Action.perform_bind, Action.perform_query_ready]
    cases ha : s.account? owner with
    | none => rfl
    | some a =>
      dsimp only
      rw [Action.perform_bind, Action.perform_found]
      dsimp only [Option.elim]
      rw [perform_session c clocks random c.grantLifetime a fun pair g => do
        let rotated ← Action.change (Store.rotateRefresh a.id (Token.Refresh.digest token) g)
        Action.require rotated .invalidRefreshToken
        return pair]
      cases session c clocks random c.grantLifetime a with
      | error e => rfl
      | ok p =>
        dsimp only
        cases hr : (s.rotateRefresh a.id (Token.Refresh.digest token) p.2).1 <;>
          simp [Action.perform_bind, Action.perform_map, hr, Except.map]

theorem perform_login_ready (c : Settings) (clocks : Clocks) (random : Bytes)
    (phone password : String) (s : Store) :
    (login c clocks random phone password).perform (.ready s) =
      if Phone.normalize phone = "" ∨ password = "" then
        (.error (.validation "phone and password are required"), .ready s)
      else match Phone.validate (Phone.normalize phone) with
      | .error e => (.error e, .ready s)
      | .ok () =>
        match Lockout.lockOn? clocks.service s.ledger[Phone.normalize phone]? with
        | some seconds => (.error (.locked seconds), .ready s)
        | none =>
          let s₁ := s.alterLedger (Phone.normalize phone) (Lockout.settle clocks.service)
          match identify? s (Phone.normalize phone) password with
          | none =>
            (.error .invalidCredentials, .ready (s₁.alterLedger (Phone.normalize phone)
              (some ∘ Lockout.charge clocks.service (Phone.normalize phone))))
          | some a =>
            match session c clocks random c.accessLifetime a with
            | .error e => (.error e, .ready s₁)
            | .ok (pair, g) =>
              let (done, s₂) := s₁.saveRefresh a.id g
              (done.map fun _ => pair, .ready s₂) := by
  unfold login
  dsimp only
  by_cases hempty : Phone.normalize phone = "" ∨ password = ""
  · simp [hempty]
  simp only [hempty, if_false]
  rw [Action.perform_bind, Action.perform_liftM]
  cases Phone.validate (Phone.normalize phone) with
  | error e => rfl
  | ok u =>
    dsimp only
    rw [Action.perform_bind, Lockout.perform_check_ready]
    cases Lockout.lockOn? clocks.service s.ledger[Phone.normalize phone]? with
    | some seconds => rfl
    | none =>
      dsimp only
      rw [Action.perform_bind, Action.perform_query_ready]
      dsimp only
      have hi : identify? (s.alterLedger (Phone.normalize phone) (Lockout.settle clocks.service))
          (Phone.normalize phone) password = identify? s (Phone.normalize phone) password := rfl
      rw [hi]
      cases identify? s (Phone.normalize phone) password with
      | none =>
        dsimp only
        rw [Action.perform_bind]
        rw [Action.perform_discard, Lockout.perform_recordFailure_ready]
        rfl
      | some a =>
        dsimp only
        rw [perform_session c clocks random c.accessLifetime a fun pair g => do
          Action.call (Store.saveRefresh a.id g)
          return pair]
        cases session c clocks random c.accessLifetime a with
        | error e => rfl
        | ok p => simp [Action.perform_map]

/-- A login gets as far as having its password looked at. -/
structure Examined (now : Instant) (phone password : String) (s : Store) : Prop where
  password_ne : password ≠ ""
  wellFormed : Phone.wellFormed (Phone.normalize phone) = true
  unlocked : Lockout.lockOn? now s.ledger[Phone.normalize phone]? = none

/-- The store once the check of a login has let it through. -/
def checked (now : Instant) (phone : String) (s : Store) : Store :=
  s.alterLedger (Phone.normalize phone) (Lockout.settle now)

/-- A login with the right password comes down to the session of the account. -/
theorem perform_login_examined (c : Settings) {clocks : Clocks} (random : Bytes)
    {phone password : String} {s : Store} {a : Account}
    (h : Examined clocks.service phone password s)
    (hi : identify? s (Phone.normalize phone) password = some a) :
    (login c clocks random phone password).perform (.ready s) =
      match session c clocks random c.accessLifetime a with
      | .error e => (.error e, .ready (checked clocks.service phone s))
      | .ok (pair, g) =>
        let (done, s') := (checked clocks.service phone s).saveRefresh a.id g
        (done.map fun _ => pair, .ready s') := by
  obtain ⟨hpassword, hphone, hunlocked⟩ := h
  have hempty : ¬ (Phone.normalize phone = "" ∨ password = "") := by
    rintro (h | h)
    · rw [h] at hphone
      cases hphone
    · exact hpassword h
  rw [perform_login_ready, if_neg hempty, Phone.validate_eq_ok_iff.mpr hphone]
  dsimp only
  rw [hunlocked]
  dsimp only
  rw [hi]
  rfl

/-- The ways a login ends, each with its answer and the store it leaves. -/
inductive LoginOutcome (c : Settings) (clocks : Clocks) (random : Bytes) (phone password : String)
    (s : Store) : Except Error TokenPair → Store → Prop where
  | refused (message : String)
      (h : password = "" ∨ Phone.wellFormed (Phone.normalize phone) = false) :
      LoginOutcome c clocks random phone password s (.error (.validation message)) s
  | locked (seconds : Nat) (hpassword : password ≠ "")
      (h : Lockout.lockOn? clocks.service s.ledger[Phone.normalize phone]? = some seconds) :
      LoginOutcome c clocks random phone password s (.error (.locked seconds)) s
  | failed (h : Examined clocks.service phone password s)
      (hi : identify? s (Phone.normalize phone) password = none) :
      LoginOutcome c clocks random phone password s (.error .invalidCredentials)
        ((checked clocks.service phone s).alterLedger (Phone.normalize phone)
          (some ∘ Lockout.charge clocks.service (Phone.normalize phone)))
  | unissued (e : Error) (a : Account) (h : Examined clocks.service phone password s)
      (hi : identify? s (Phone.normalize phone) password = some a)
      (hs : session c clocks random c.accessLifetime a = .error e) :
      LoginOutcome c clocks random phone password s (.error e) (checked clocks.service phone s)
  | admitted (a : Account) (pair : TokenPair) (g : RefreshGrant)
      (h : Examined clocks.service phone password s)
      (hi : identify? s (Phone.normalize phone) password = some a)
      (hs : session c clocks random c.accessLifetime a = .ok (pair, g)) :
      LoginOutcome c clocks random phone password s
        (((checked clocks.service phone s).saveRefresh a.id g).1.map fun _ => pair)
        ((checked clocks.service phone s).saveRefresh a.id g).2

theorem login_outcome (c : Settings) (clocks : Clocks) (random : Bytes) (phone password : String)
    (s : Store) :
    ∃ answer s', (login c clocks random phone password).perform (.ready s) = (answer, .ready s') ∧
      LoginOutcome c clocks random phone password s answer s' := by
  rw [perform_login_ready]
  split
  next he =>
    refine ⟨_, s, rfl, .refused _ (he.symm.imp_right fun hp => ?_)⟩
    rw [hp]
    rfl
  next he =>
    have hpassword : password ≠ "" := fun h => he (.inr h)
    split
    next e hv =>
      obtain ⟨hw, rfl⟩ := Phone.validate_eq_error_iff.mp hv
      exact ⟨_, s, rfl, .refused _ (.inr hw)⟩
    next hv =>
      have hphone := Phone.validate_eq_ok_iff.mp hv
      split
      next seconds hl => exact ⟨_, s, rfl, .locked seconds hpassword hl⟩
      next hl =>
        have hx : Examined clocks.service phone password s := ⟨hpassword, hphone, hl⟩
        dsimp only
        split
        next hi => exact ⟨_, _, rfl, .failed hx hi⟩
        next a hi =>
          split
          next e hs => exact ⟨_, _, rfl, .unissued e a hx hi hs⟩
          next pair g hs => exact ⟨_, _, rfl, .admitted a pair g hx hi hs⟩

end Authentication

end Turnstile

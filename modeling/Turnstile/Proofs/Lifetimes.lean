import Turnstile.Proofs.Admission
import Turnstile.Proofs.CommandLine

/-! The arithmetic of token lifetimes. Minutes are made a duration, and the duration is added to the
wall clock for an access token and to the service clock for a refresh token. Every sum either stays
in its range or is given up before anything is stored. -/
namespace Turnstile

/-- An integer of 64 bits with a sign. -/
def Word (n : Int) : Prop := -9223372036854775808 ≤ n ∧ n ≤ 9223372036854775807

namespace Instant

/-- The last instant of the calendar. -/
def last : Instant := .ofSeconds lastSecond 999999999

variable {t : Instant} {d : Duration}

theorem Representable.second_bounds (h : t.Representable) :
    firstSecond ≤ t.second ∧ t.second ≤ lastSecond := by
  obtain ⟨hfirst, hlast⟩ := h
  simp only [second, firstSecond, lastSecond] at *
  rw [Int.fdiv_eq_ediv_of_nonneg _ (by decide)]
  omega

/-- What comes after an instant of the calendar can only be missed at its far end. -/
theorem Representable.after (h : t.Representable) (hd : 0 ≤ d.nanos) (hlast : t.after d ≤ last) :
    (t.after d).Representable := by
  obtain ⟨hfirst, -⟩ := h
  simp only [Representable, le_iff, last, ofSeconds, Instant.after, firstSecond, lastSecond] at *
  omega

theorem after_le_after {d' : Duration} (h : d.nanos ≤ d'.nanos) : t.after d ≤ t.after d' :=
  Int.add_le_add_left h t.nanos

end Instant

namespace Settings

/-- The lifetime is made of the minutes if they are usable, and an internal error if not. -/
structure Follows (minutes : Int) (lifetime : Except Error Duration) : Prop where
  ok_iff : ∀ d, lifetime = .ok d ↔ Usable minutes ∧ d = .ofMinutes minutes
  internal : ∀ e, lifetime = .error e → ∃ message, e = .internal message

theorem follows_lifetime (what : String) (minutes : Int) :
    Follows minutes (lifetime what minutes) :=
  ⟨fun _ => lifetime_eq_ok_iff, fun _ => internal_of_lifetime⟩

/-- Lifetimes that a command line can ask for. -/
structure Admitted (c : Settings) : Prop where
  access : 1 ≤ c.accessMinutes ∧ c.accessMinutes ≤ maxMinutes
  grant : 1 ≤ c.grantMinutes ∧ c.grantMinutes ≤ maxMinutes
  refresh : 1 ≤ c.refreshMinutes ∧ c.refreshMinutes ≤ maxMinutes

theorem usable_of_admitted {minutes : Int} (h : 1 ≤ minutes ∧ minutes ≤ maxMinutes) :
    Usable minutes := by
  simp only [Usable, maxMinutes, Duration.maxMillis] at *
  omega

theorem admitted_of_parse {env : Environment} {args : List String} {a : Cli.ServerArguments}
    (h : Cli.parse env args = .ok a) : a.settings.Admitted := by
  obtain ⟨s, hs, rfl⟩ := Cli.exists_checked_of_parse h
  exact ⟨hs.number_mem_range (a := .accessMinutes) rfl,
    hs.number_mem_range (a := .grantMinutes) rfl, hs.number_mem_range (a := .refreshMinutes) rfl⟩

/-- The minutes that an access token is issued for, those of a login or those of a refresh. -/
def minutesFor (c : Settings) : Operation → Int
  | .refresh _ => c.grantMinutes
  | _ => c.accessMinutes

def lifetimeFor (c : Settings) : Operation → Except Error Duration
  | .refresh _ => c.grantLifetime
  | _ => c.accessLifetime

theorem follows_lifetimeFor (c : Settings) (o : Operation) :
    Follows (c.minutesFor o) (c.lifetimeFor o) := by
  unfold minutesFor lifetimeFor
  split <;> exact follows_lifetime ..

theorem Admitted.minutesFor {c : Settings} (h : c.Admitted) (o : Operation) :
    1 ≤ c.minutesFor o ∧ c.minutesFor o ≤ maxMinutes := by
  unfold Settings.minutesFor
  split
  · exact h.grant
  · exact h.access

end Settings

open Settings (Usable)

/-- A wall clock in the calendar and a usable lifetime add up within 64 bits. -/
theorem word_expiry {wall : Instant} (hwall : wall.Representable) {minutes : Int}
    (h : Usable minutes) :
    Word wall.second ∧ Word (60 * minutes) ∧ Word (wall.second + 60 * minutes) := by
  have hbounds := hwall.second_bounds
  simp only [Usable, Word, Instant.firstSecond, Instant.lastSecond, Duration.maxMillis] at *
  omega

theorem Duration.seconds_ofMinutes (minutes : Int) :
    (Duration.ofMinutes minutes).seconds = 60 * minutes := by
  rw [ofMinutes, seconds_ofSeconds, Int.mul_comm]

namespace Authentication

/-- Who an operation is to issue tokens to, by the password or the refresh token it brings. -/
inductive Earned (now : Instant) (s : Store) : Operation → Account → Prop where
  | login {phone password : String} {a : Account} (h : Examined now phone password s)
      (hi : identify? s (Phone.normalize phone) password = some a) :
      Earned now s (.login phone password) a
  | refresh {token : String} {a : Account} (hne : token ≠ "")
      (ho : (s.refreshOwner? (Token.Refresh.digest token) now).bind s.account? = some a) :
      Earned now s (.refresh token) a

theorem session_eq_ok_iff {c : Settings} {clocks : Clocks} {random : Bytes}
    {access : Except Error Duration} {a : Account} :
    (∃ p, session c clocks random access a = .ok p) ↔
      c.secret ≠ "" ∧ (∃ d, access = .ok d) ∧
        ∃ d, c.refreshLifetime = .ok d ∧ (clocks.service.after d).Representable := by
  constructor
  · rintro ⟨p, h⟩
    obtain ⟨d, hd, h⟩ := ok_of_bind h
    obtain ⟨pair, hpair, h⟩ := ok_of_bind h
    obtain ⟨lifetime, hl, h⟩ := ok_of_bind h
    obtain ⟨t, ht, -⟩ := ok_of_bind h
    obtain ⟨token, hissue, -⟩ := ok_of_bind hpair
    exact ⟨(Token.sign_ok_iff _ _).mp ⟨token, hissue⟩, ⟨d, hd⟩, lifetime, hl,
      (expiry_eq_ok.mp ht).1⟩
  · rintro ⟨hsecret, ⟨d, hd⟩, lifetime, hl, hr⟩
    exact ⟨_, session_eq hsecret hd hl hr random a⟩

/-- With a secret, whatever keeps a session from being issued is an internal error by name. -/
theorem internal_of_session {c : Settings} (hsecret : c.secret ≠ "") {clocks : Clocks}
    {random : Bytes} {access : Except Error Duration} {a : Account} {e : Error}
    (haccess : ∀ e, access = .error e → ∃ message, e = .internal message)
    (h : session c clocks random access a = .error e) : ∃ message, e = .internal message := by
  rcases error_of_bind h with h | ⟨d, -, h⟩
  · exact haccess e h
  rcases error_of_bind h with h | ⟨pair, -, h⟩
  · obtain ⟨text, hok⟩ := issuePair_eq_ok hsecret clocks.wall random a d
    rw [hok] at h
    cases h
  rcases error_of_bind h with h | ⟨lifetime, -, h⟩
  · exact Settings.internal_of_lifetime h
  rcases error_of_bind h with h | ⟨t, -, h⟩
  · exact internal_of_expiry h
  · cases h

end Authentication

open Authentication

namespace Event

variable {c : Settings} {now : Circumstances} {o : Operation} {a : Account} {s : Store}

/-- Earned tokens are handed out if a session is issued, and until then no account is touched. -/
theorem answer_of_earned (hk : s.Keyed) (h : Earned now.clocks.service s o a) :
    a.id ∈ s.accounts ∧ ∃ s₁ : Store, s₁.accounts = s.accounts ∧
      answer c ⟨now, o⟩ (.ready s) =
        match session c now.clocks now.entropy.token (c.lifetimeFor o) a with
        | .error e => (.error e, .ready s₁)
        | .ok (pair, g) => (.ok (.tokens pair), .ready (s₁.modifyAccount a.id fun r =>
            { r with refresh := some g })) := by
  cases h with
  | @login phone password _ hx hi =>
    have hmem : a.id ∈ (checked now.clocks.service phone s).accounts :=
      hk.mem_of_accountByPhone? (Option.filter_eq_some_iff.mp hi).1
    refine ⟨hmem, checked now.clocks.service phone s, rfl, ?_⟩
    have hanswer : answer c ⟨now, .login phone password⟩ (.ready s) = _ := Action.perform_map ..
    rw [hanswer, perform_login_examined c now.entropy.token hx hi]
    dsimp only [Settings.lifetimeFor]
    cases session c now.clocks now.entropy.token c.accessLifetime a with
    | error e => rfl
    | ok p =>
      dsimp only
      rw [Store.saveRefresh_eq hmem]
      rfl
  | @refresh token _ hne ho =>
    obtain ⟨owner, howner, ha⟩ := Option.bind_eq_some_iff.mp ho
    obtain ⟨g, hg, hdigest, -⟩ := hk.grant?_of_refreshOwner? howner
    rw [← hk.id_of_account? ha] at hg
    have hholds : ((s.grant? a.id).any (·.digest = Token.Refresh.digest token)) = true := by
      rw [hg]
      exact decide_eq_true hdigest
    refine ⟨Store.mem_of_grant? hg, s, rfl, ?_⟩
    have hanswer : answer c ⟨now, .refresh token⟩ (.ready s) = _ := Action.perform_map ..
    rw [hanswer, perform_refresh_ready hne, ho]
    dsimp only [Settings.lifetimeFor]
    cases session c now.clocks now.entropy.token c.grantLifetime a with
    | error e => rfl
    | ok p =>
      dsimp only
      rw [Store.rotateRefresh_eq, if_pos hholds]
      rfl

end Event

/-- What comes of earned tokens, by the secret, the minutes and the clocks. -/
structure Issues (c : Settings) (now : Circumstances) (o : Operation) (a : Account) (s s' : Store)
    (answer : Except Error Reply) : Prop where
  /-- Tokens are issued as long as the secret and the minutes are usable and the calendar reaches as
  far as the refresh token. -/
  ok_iff : (∃ reply, answer = .ok reply) ↔
    c.secret ≠ "" ∧ Usable (c.minutesFor o) ∧ Usable c.refreshMinutes ∧
      (now.clocks.service.after (.ofMinutes c.refreshMinutes)).Representable
  /-- They lapse as many minutes from now as are set. -/
  tokens : ∀ reply, answer = .ok reply → ∃ claims token,
    reply = .tokens ⟨Token.signedText c.secret claims, token⟩ ∧
      claims.issuedAt = now.clocks.wall.second ∧
      claims.expiresAt = now.clocks.wall.second + 60 * c.minutesFor o ∧
      s'.grant? a.id = some ⟨Token.Refresh.digest token,
        now.clocks.service.after (.ofMinutes c.refreshMinutes)⟩
  /-- Or else it is an internal error, and the refresh tokens are as they were. -/
  refused : ∀ e, answer = .error e →
    e.kind = .internal ∧ (c.secret ≠ "" → ∃ message, e = .internal message) ∧
      s'.accounts = s.accounts

theorem session_issued_iff (c : Settings) (now : Circumstances) (o : Operation) (a : Account) :
    (∃ p, session c now.clocks now.entropy.token (c.lifetimeFor o) a = .ok p) ↔
      c.secret ≠ "" ∧ Usable (c.minutesFor o) ∧ Usable c.refreshMinutes ∧
        (now.clocks.service.after (.ofMinutes c.refreshMinutes)).Representable := by
  have hrefresh : Settings.Follows c.refreshMinutes c.refreshLifetime :=
    Settings.follows_lifetime ..
  rw [session_eq_ok_iff]
  simp only [(c.follows_lifetimeFor o).ok_iff, hrefresh.ok_iff, and_assoc, exists_and_left,
    exists_eq_left, exists_eq, and_true]

theorem exists_issues {c : Settings} {s : Store} {now : Circumstances} {o : Operation} {a : Account}
    (hk : s.Keyed) (h : Earned now.clocks.service s o a) :
    ∃ answer s', Event.answer c ⟨now, o⟩ (.ready s) = (answer, .ready s') ∧
      Issues c now o a s s' answer := by
  obtain ⟨hmem, s₁, haccounts, hanswer⟩ := Event.answer_of_earned (c := c) hk h
  have hiff := session_issued_iff c now o a
  cases hs : session c now.clocks now.entropy.token (c.lifetimeFor o) a with
  | error e =>
    rw [hs] at hanswer hiff
    refine ⟨.error e, s₁, hanswer, ⟨?_, fun _ h => (nomatch h), ?_⟩⟩
    · rw [← hiff]
      exact ⟨fun ⟨_, h⟩ => (nomatch h), fun ⟨_, h⟩ => (nomatch h)⟩
    · rintro _ ⟨⟩
      have haccess := (c.follows_lifetimeFor o).internal
      refine ⟨kind_of_session (fun e he => ?_) hs,
        fun hsecret => internal_of_session hsecret haccess hs, haccounts⟩
      obtain ⟨_, rfl⟩ := haccess e he
      rfl
  | ok p =>
    have hok := hiff.mp ⟨p, hs⟩
    obtain ⟨hsecret, hminutes, hrefresh, hreach⟩ := hok
    have haccess := ((c.follows_lifetimeFor o).ok_iff _).mpr ⟨hminutes, rfl⟩
    have hlifetime : c.refreshLifetime = .ok (.ofMinutes c.refreshMinutes) :=
      Settings.lifetime_eq_ok_iff.mpr ⟨hrefresh, rfl⟩
    rw [session_eq hsecret haccess hlifetime hreach] at hanswer
    refine ⟨_, _, hanswer, ⟨?_, ?_, fun _ h => (nomatch h)⟩⟩
    · rw [← hiff]
      exact ⟨fun _ => ⟨p, hs⟩, fun _ => ⟨_, rfl⟩⟩
    · rintro _ ⟨⟩
      refine ⟨_, _, rfl, rfl, ?_, ?_⟩
      · rw [← Duration.seconds_ofMinutes]
        rfl
      · rw [Store.grant?_write _ (by rwa [haccounts]), if_pos rfl]

/-- With lifetimes that a command line can ask for, and a clock that is not within them of its end,
only an empty secret keeps earned tokens from being issued. -/
theorem Issues.ok_iff_secret {c : Settings} {s s' : Store} {now : Circumstances} {o : Operation}
    {a : Account} {answer : Except Error Reply} (h : Issues c now o a s s' answer)
    (hc : c.Admitted) (hservice : now.clocks.service.Representable)
    (hreach : now.clocks.service.after (.ofMinutes Settings.maxMinutes) ≤ .last) :
    (∃ reply, answer = .ok reply) ↔ c.secret ≠ "" := by
  have hminutes := Settings.usable_of_admitted (hc.minutesFor o)
  have hrefresh := Settings.usable_of_admitted hc.refresh
  have hnanos : 0 ≤ (Duration.ofMinutes c.refreshMinutes).nanos ∧
      (Duration.ofMinutes c.refreshMinutes).nanos ≤
        (Duration.ofMinutes Settings.maxMinutes).nanos := by
    have hbounds := hc.refresh
    simp only [Duration.ofMinutes, Duration.ofSeconds]
    omega
  have hexpiry : (now.clocks.service.after (.ofMinutes c.refreshMinutes)).Representable :=
    hservice.after hnanos.1 (Int.le_trans (Instant.after_le_after hnanos.2) hreach)
  rw [h.ok_iff]
  exact ⟨fun hok => hok.1, fun hsecret => ⟨hsecret, hminutes, hrefresh, hexpiry⟩⟩

/-- Whatever minutes are set, the lifetimes made of them and the times at which tokens lapse stay in
their ranges, or no token is issued and none is lost. A command line asks for no lifetime that leads
as far as that. -/
theorem lifetimes_in_range (c : Settings) :
    (Settings.Follows c.accessMinutes c.accessLifetime ∧
      Settings.Follows c.grantMinutes c.grantLifetime ∧
      Settings.Follows c.refreshMinutes c.refreshLifetime) ∧
    (∀ env args a, Cli.parse env args = .ok a → a.settings.Admitted) ∧
    ∀ (now : Circumstances) (s : Store) (o : Operation) (a : Account),
      now.clocks.wall.Representable → now.clocks.service.Representable → s.Keyed →
      Earned now.clocks.service s o a →
      (∀ lifetime, c.lifetimeFor o = .ok lifetime →
        Word now.clocks.wall.second ∧ Word lifetime.seconds ∧
          Word (now.clocks.wall.second + lifetime.seconds)) ∧
      ∃ answer s', Event.answer c ⟨now, o⟩ (.ready s) = (answer, .ready s') ∧
        Issues c now o a s s' answer ∧
        (c.Admitted → now.clocks.service.after (.ofMinutes Settings.maxMinutes) ≤ .last →
          ((∃ reply, answer = .ok reply) ↔ c.secret ≠ "")) := by
  have hfollows := Settings.follows_lifetime
  refine ⟨⟨hfollows .., hfollows .., hfollows ..⟩, fun _ _ _ => Settings.admitted_of_parse,
    fun now s o a hwall hservice hk hearned => ⟨?_, ?_⟩⟩
  · intro lifetime hlifetime
    obtain ⟨hminutes, rfl⟩ := ((c.follows_lifetimeFor o).ok_iff lifetime).mp hlifetime
    rw [Duration.seconds_ofMinutes]
    exact word_expiry hwall hminutes
  · obtain ⟨answer, s', hanswer, hissues⟩ := exists_issues (c := c) hk hearned
    exact ⟨answer, s', hanswer, hissues, fun hc => hissues.ok_iff_secret hc hservice⟩

/-- A login at the end of the calendar stores nothing, and ten years before it succeeds. -/
theorem login_at_last_instant :
    let c : Settings := ⟨"test-secret", 60, 15, Settings.maxMinutes⟩
    let r : Registration := ⟨"+15551234567", none, "Passw0rd!", none, none⟩
    let a : NewAccount := Registration.account r ⟨1⟩ (List.replicate 16 7)
    let s : Store := { Store.empty with
      accounts := Store.empty.accounts.insert a.id (a.record ⟨0⟩) }
    let moment (service : Instant) : Circumstances :=
      ⟨⟨.last, service⟩, ⟨⟨2⟩, [], List.replicate 32 9⟩⟩
    (∃ message s', Event.answer c ⟨moment .last, .login "+15551234567" "Passw0rd!"⟩ (.ready s) =
      (.error (.internal message), .ready s') ∧ s'.accounts = s.accounts) ∧
    ∃ pair s', Event.answer c ⟨moment (.ofSeconds 8209951516799 999999999),
      .login "+15551234567" "Passw0rd!"⟩ (.ready s) = (.ok (.tokens pair), .ready s') := by
  intro c r a s moment
  have hk : s.Keyed := Store.keyed_empty.insert a ⟨0⟩
  have haccount : s.accountByPhone? a.phone = some (a.record ⟨0⟩).account :=
    Store.accountByPhone?_of_insert (s := .empty) rfl rfl
  have hidentify : identify? s a.phone r.password = some (a.record ⟨0⟩).account := by
    rw [identify?, haccount, Option.filter_some]
    exact if_pos (Password.verify_hash (by decide) r.password)
  have hearned (service : Instant) : Earned service s (.login r.phone r.password)
      (a.record ⟨0⟩).account :=
    .login ⟨by decide, by decide, rfl⟩ hidentify
  have hc : c.Admitted := ⟨by decide, by decide, by decide⟩
  have hlast : Instant.last.Representable := by decide
  have hissues (service : Instant) (hs : service.Representable) :=
    ((lifetimes_in_range c).2.2 (moment service) s _ _ hlast hs hk (hearned service)).2
  constructor
  · obtain ⟨answer, s', hanswer, hi, -⟩ := hissues .last hlast
    cases answer with
    | ok reply => exact absurd (hi.ok_iff.mp ⟨reply, rfl⟩).2.2.2 (by decide)
    | error e =>
      obtain ⟨-, hinternal, haccounts⟩ := hi.refused e rfl
      obtain ⟨message, rfl⟩ := hinternal (by decide)
      exact ⟨message, s', hanswer, haccounts⟩
  · obtain ⟨answer, s', hanswer, hi, hiff⟩ :=
      hissues (.ofSeconds 8209951516799 999999999) (by decide)
    obtain ⟨reply, rfl⟩ := (hiff hc (by decide)).mpr (by decide)
    obtain ⟨claims, token, rfl, -⟩ := hi.tokens reply rfl
    exact ⟨_, s', hanswer⟩

end Turnstile

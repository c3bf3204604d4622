import Turnstile.Proofs.Answers
import Turnstile.Proofs.Targets

/-! What a refused login tells about the accounts. One that identifies nobody comes to the same from
every store with the same ledger, so a phone that nobody has and a password that is wrong cannot be
told apart. -/
namespace Turnstile

/-- What a login that identifies nobody comes to, and what becomes of the ledger. -/
def Lockout.rejection (now : Instant) (phone password : String)
    (ledger : Std.ExtTreeMap String FailedLogins) : Error × Std.ExtTreeMap String FailedLogins :=
  if phone = "" ∨ password = "" then (.validation "phone and password are required", ledger)
  else match Phone.validate phone with
  | .error e => (e, ledger)
  | .ok () =>
    match lockOn? now ledger[phone]? with
    | some seconds => (.locked seconds, ledger)
    | none =>
      (.invalidCredentials, (ledger.alter phone (settle now)).alter phone (some ∘ charge now phone))

/-- The input is invalid, or the phone is locked, or the credentials are wrong. -/
theorem Lockout.rejection_cases (now : Instant) (phone password : String)
    (ledger : Std.ExtTreeMap String FailedLogins) :
    (∃ message, (rejection now phone password ledger).1 = .validation message) ∨
      (∃ seconds, (rejection now phone password ledger).1 = .locked seconds) ∨
      (rejection now phone password ledger).1 = .invalidCredentials := by
  unfold rejection
  split
  next => exact .inl ⟨_, rfl⟩
  next =>
    split
    next e he => exact .inl ⟨_, (Phone.validate_eq_error_iff.mp he).2.symm⟩
    next =>
      split
      next seconds _ => exact .inr (.inl ⟨seconds, rfl⟩)
      next => exact .inr (.inr rfl)

namespace Authentication

variable {s : Store} {phone password : String}

theorem identify?_of_unknown (h : ∀ r ∈ s.records, r.account.phone ≠ phone) :
    identify? s phone password = none := by
  have hnone : s.accountByPhone? phone = none := by
    rw [Store.accountByPhone?, Option.map_eq_none_iff, List.find?_eq_none]
    intro r hr
    simpa using h r hr
  rw [identify?, hnone, Option.filter_none]

theorem identify?_of_wrong {user : Uuid} {r : AccountRecord}
    (hsole : s.Sole (·.account.phone = phone) user) (hr : s.accounts[user]? = some r)
    (hwrong : Password.verify password r.account.passwordHash = false) :
    identify? s phone password = none := by
  rw [identify?, Option.filter_eq_none_iff]
  intro a ha
  obtain ⟨r', hfind, rfl⟩ := Option.map_eq_some_iff.mp ha
  obtain ⟨id, hid⟩ := Store.mem_records.mp (List.mem_of_find?_eq_some hfind)
  -- Whatever the search finds is the record of the one account with the phone.
  obtain rfl := (hsole id).mp ⟨r', hid, by simpa using List.find?_some hfind⟩
  rw [hr] at hid
  cases hid
  simp [hwrong]

theorem perform_login_of_none (h : identify? s (Phone.normalize phone) password = none)
    (c : Settings) (clocks : Clocks) (random : Bytes) :
    (login c clocks random phone password).perform (.ready s) =
      (.error (Lockout.rejection clocks.service (Phone.normalize phone) password s.ledger).1,
        .ready { s with
          ledger := (Lockout.rejection clocks.service (Phone.normalize phone) password
            s.ledger).2 }) := by
  rw [perform_login_ready, h, Lockout.rejection]
  split
  next => rfl
  next =>
    cases Phone.validate (Phone.normalize phone) with
    | error e => rfl
    | ok u =>
      dsimp only
      cases Lockout.lockOn? clocks.service s.ledger[Phone.normalize phone]? with
      | some seconds => rfl
      | none => rfl

end Authentication

namespace Event

/-- A login with a phone that nobody has and one with a wrong password to a phone that one account
has, from the same ledger, at the same time and with the same input: both are refused with the same
error, both leave the ledger in the same state and nothing else changed, and over HTTP they get the
same response. -/
theorem unknown_phone_like_wrong_password (c : Settings) (now : Circumstances)
    (phone password : String) {s₁ s₂ : Store} (hledger : s₁.ledger = s₂.ledger)
    (hunknown : ∀ r ∈ s₁.records, r.account.phone ≠ Phone.normalize phone) {user : Uuid}
    {r : AccountRecord} (hsole : s₂.Sole (·.account.phone = Phone.normalize phone) user)
    (hr : s₂.accounts[user]? = some r)
    (hwrong : Password.verify password r.account.passwordHash = false) :
    ∃ err ledger,
      Event.answer c ⟨now, .login phone password⟩ (.ready s₁) =
        (.error err, .ready { s₁ with ledger := ledger }) ∧
      Event.answer c ⟨now, .login phone password⟩ (.ready s₂) =
        (.error err, .ready { s₂ with ledger := ledger }) ∧
      ((∃ message, err = .validation message) ∨ (∃ seconds, err = .locked seconds) ∨
        err = .invalidCredentials) ∧
      ∀ id q, Http.Asks c ⟨now, id⟩ q (.login phone password) →
        Http.handle c ⟨now, id⟩ q (.ready s₁) =
            (err.response.finish ⟨now, id⟩ q, .ready { s₁ with ledger := ledger }) ∧
          Http.handle c ⟨now, id⟩ q (.ready s₂) =
            (err.response.finish ⟨now, id⟩ q, .ready { s₂ with ledger := ledger }) := by
  have hrefused {s : Store} (h : Authentication.identify? s (Phone.normalize phone) password = none) :=
    Action.perform_map_of_error
      (Authentication.perform_login_of_none h c now.clocks now.entropy.token) Reply.tokens
  have h₁ := hrefused (Authentication.identify?_of_unknown hunknown)
  have h₂ := hrefused (Authentication.identify?_of_wrong hsole hr hwrong)
  rw [hledger] at h₁
  refine ⟨_, _, h₁, h₂, Lockout.rejection_cases .., fun id q hasks => ?_⟩
  exact ⟨Http.handle_of_error hasks h₁, Http.handle_of_error hasks h₂⟩

/-- A third guess over HTTP, at a phone without an account and at one that has an account: both are
told the same, and both phones are locked. -/
theorem third_guess_alike :
    let c := Settings.ofSecret "secret"
    let arrival : Http.Arrival :=
      ⟨⟨⟨.ofSeconds 9 0, .ofSeconds 9 0⟩, ⟨⟨1⟩, [], []⟩⟩, "1"⟩
    let ledger := Std.ExtTreeMap.ofList [("+15551234567", FailedLogins.mk "+15551234567" 2 none)]
    let s₁ : Store := { Store.empty with ledger := ledger }
    let a : NewAccount := ⟨⟨1⟩, "+15551234567", none, "hash", none, none⟩
    let s₂ : Store :=
      { s₁ with accounts := s₁.accounts.insert a.id (a.record (.ofSeconds 0 0)) }
    let q : Http.Request := ⟨.post, "/v1/auth/login", [("content-type", "application/json")],
      "\x7b\"phone\":\"+1 555 1234567\",\"password\":\"guess\"\x7d"⟩
    let response := Error.invalidCredentials.response.finish arrival q
    ∃ after : Std.ExtTreeMap String FailedLogins,
      after["+15551234567"]? = some (FailedLogins.mk "+15551234567" 3 (some (.ofSeconds 39 0))) ∧
      Http.handle c arrival q (.ready s₁) = (response, .ready { s₁ with ledger := after }) ∧
      Http.handle c arrival q (.ready s₂) = (response, .ready { s₂ with ledger := after }) := by
  intro c arrival ledger s₁ a s₂ q response
  have hledger : s₁.ledger = s₂.ledger := rfl
  have hunknown : ∀ r ∈ s₁.records, r.account.phone ≠ Phone.normalize "+1 555 1234567" := by
    decide +kernel
  have hr : s₂.accounts[a.id]? = some (a.record (.ofSeconds 0 0)) :=
    Std.ExtTreeMap.getElem?_insert_self
  have hsole : s₂.Sole (·.account.phone = Phone.normalize "+1 555 1234567") a.id := by
    intro other
    constructor
    · rintro ⟨r, hother, -⟩
      rw [Std.ExtTreeMap.getElem?_insert] at hother
      split at hother
      next heq => exact (Std.LawfulEqCmp.eq_of_compare heq).symm
      next => cases hother
    · rintro rfl
      exact ⟨_, hr, by decide⟩
  have hbody : (Http.body .credentials q).toOption.map (fun b => (b.phone, b.password)) =
      some ("+1 555 1234567", "guess") := by decide +kernel
  have hasks : Http.Asks c arrival q (.login "+1 555 1234567" "guess") := by
    cases hb : Http.body .credentials q with
    | error e =>
      rw [hb] at hbody
      cases hbody
    | ok b =>
      obtain ⟨phone, password⟩ := b
      have hlogin : Http.Asks c arrival q (.login phone password) :=
        Http.asks_login (by decide +kernel) hb
      rw [hb] at hbody
      cases hbody
      exact hlogin
  obtain ⟨err, after, h₁, -, -, hhttp⟩ := unknown_phone_like_wrong_password c
    arrival.circumstances "+1 555 1234567" "guess" hledger hunknown hsole hr (by decide +kernel)
  let e : Event := ⟨arrival.circumstances, .login "+1 555 1234567" "guess"⟩
  have herr : (e.answer c (.ready s₁)).1 = .error .invalidCredentials := by decide +kernel
  have hafter : ((e.answer c (.ready s₁)).2.store?.bind fun s => s.ledger["+15551234567"]?) =
      some (FailedLogins.mk "+15551234567" 3 (some (.ofSeconds 39 0))) := by decide +kernel
  rw [h₁] at herr hafter
  cases herr
  exact ⟨after, hafter, hhttp "1" q hasks⟩

end Event

end Turnstile

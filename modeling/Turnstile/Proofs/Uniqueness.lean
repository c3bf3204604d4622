import Mathlib.Data.List.Nodup
import Turnstile.Proofs.Admission

/-! Uniqueness of accounts. The store is searched by phone, by email and by refresh digest. No two
accounts ever answer to the same one, so a search finds the same account in whatever order it goes
through them. -/
namespace Turnstile

/-- What an account is found by. -/
structure Keys where
  id : Uuid
  phone : String
  email : Option String
  digest : Option Bytes

/-- Both answer to the same phone, email or digest. -/
def Keys.Clash (k k' : Keys) : Prop :=
  k.phone = k'.phone ∨ (∃ email, k.email = some email ∧ k'.email = some email) ∨
    ∃ digest, k.digest = some digest ∧ k'.digest = some digest

theorem Keys.Clash.symm {k k' : Keys} (h : k.Clash k') : k'.Clash k := by
  rcases h with h | ⟨email, h, h'⟩ | ⟨digest, h, h'⟩
  · exact .inl h.symm
  · exact .inr (.inl ⟨email, h', h⟩)
  · exact .inr (.inr ⟨digest, h', h⟩)

def AccountRecord.keys (r : AccountRecord) : Keys :=
  ⟨r.account.id, r.account.phone, r.account.email, r.refresh.map (·.digest)⟩

namespace Store

def keys? (s : Store) (id : Uuid) : Option Keys := s.accounts[id]?.map AccountRecord.keys

variable {s s' : Store} {issued : List Bytes}

theorem keys?_eq_some_iff {id : Uuid} {k : Keys} :
    s.keys? id = some k ↔ ∃ r, s.accounts[id]? = some r ∧ r.keys = k := Option.map_eq_some_iff

theorem keys?_modifyAccount (s : Store) (id : Uuid) (f : AccountRecord → AccountRecord)
    (user : Uuid) :
    (s.modifyAccount id f).keys? user =
      if user = id then s.accounts[id]?.map fun r => (f r).keys else s.keys? user := by
  unfold keys?
  rw [modifyAccount_get]
  split
  next => rw [Option.map_map, Function.comp_def]
  next => rfl

theorem keys?_insert (s : Store) (a : NewAccount) (now : Instant) (user : Uuid) :
    ({ s with accounts := s.accounts.insert a.id (a.record now) } : Store).keys? user =
      if user = a.id then some ⟨a.id, a.phone, a.email, none⟩ else s.keys? user := by
  simp only [keys?, Std.ExtTreeMap.getElem?_insert, Std.LawfulEqCmp.compare_eq_iff_eq]
  by_cases h : user = a.id
  · simp [h, NewAccount.record, AccountRecord.keys]
  · simp [h, Ne.symm h]

/-- Rights, failed logins, roles and contexts are no keys. -/
theorem hidden_keys {p : Part} (ha : p ≠ .accounts) (hc : p ≠ .credentials) (ht : p ≠ .tokens) :
    p.Hidden keys? := by
  intro s s' hw
  cases hw with
  | account => exact absurd rfl ha
  | credentials => exact absurd rfl hc
  | token => exact absurd rfl ht
  | rights id rights =>
    funext user
    rw [keys?_modifyAccount]
    split
    next h => rw [h]; rfl
    next => rfl
  | ledger | roles | contexts => rfl

theorem keys?_begun (s : Store) (lifetime : Duration) (clocks : Clocks) (random : Bytes)
    (spelling : String) (id user : Uuid) :
    (Authentication.begun lifetime clocks random spelling id s).keys? user =
      if user = id then (s.keys? id).map fun k =>
        { k with digest := some (Token.Refresh.digest (Token.Refresh.ofBytes random)) }
      else s.keys? user := by
  rw [Authentication.begun, keys?_modifyAccount]
  split
  next => rw [keys?, Option.map_map]; rfl
  next => rfl

/-- The keys after a registration and the first login of the new account. -/
theorem keys?_first_login (s : Store) (q : Registration) (now : Circumstances) (lifetime : Duration)
    (clocks : Clocks) (random : Bytes) (spelling : String) (user : Uuid) :
    (Authentication.begun lifetime clocks random spelling now.entropy.id
      { s with accounts := s.accounts.insert now.entropy.id (q.record now) }).keys? user =
      if user = now.entropy.id then
        some ⟨now.entropy.id, Phone.normalize q.phone, Email.normalize q.email,
          some (Token.Refresh.digest (Token.Refresh.ofBytes random))⟩
      else s.keys? user := by
  have hregister := s.keys?_insert
    (Authentication.Registration.account q now.entropy.id now.entropy.salt) now.clocks.wall
  rw [keys?_begun]
  split
  next => exact congrArg (Option.map _) ((hregister now.entropy.id).trans (if_pos rfl))
  next hne => exact (hregister user).trans (if_neg hne)

theorem accountExists_iff {phone : String} {email : Option String} :
    s.accountExists phone email = true ↔ ∃ r ∈ s.records, r.account.phone = phone ∨
      ∃ address, email = some address ∧ r.account.email = some address := by
  simp only [accountExists, phoneTaken, emailTaken, Bool.or_eq_true, List.any_eq_true,
    Option.any_eq_true, decide_eq_true_eq]
  constructor
  · rintro (⟨r, hr, hphone⟩ | ⟨address, he, r, hr, hemail⟩)
    · exact ⟨r, hr, .inl hphone⟩
    · exact ⟨r, hr, .inr ⟨address, he, hemail⟩⟩
  · rintro ⟨r, hr, hphone | ⟨address, he, hemail⟩⟩
    · exact .inl ⟨r, hr, hphone⟩
    · exact .inr ⟨address, he, r, hr, hemail⟩

/-- No two accounts clash, and every digest kept is that of a token that was issued. -/
structure Unique (issued : List Bytes) (s : Store) : Prop where
  keyed : s.Keyed
  apart : ∀ {id id' k k'}, s.keys? id = some k → s.keys? id' = some k' → k.Clash k' → id = id'
  issued : ∀ {id k digest}, s.keys? id = some k → k.digest = some digest → digest ∈ issued

namespace Unique

theorem empty : Unique issued .empty where
  keyed := keyed_empty
  apart := by simp [keys?, Store.empty]
  issued := by simp [keys?, Store.empty]

theorem mono (h : Unique issued s) (more : List Bytes) : Unique (issued ++ more) s :=
  ⟨h.keyed, h.apart, fun hk hd => List.mem_append_left _ (h.issued hk hd)⟩

theorem of_views_eq (h : Unique issued s) (hkeyed : s'.Keyed = s.Keyed)
    (hkeys : s'.keys? = s.keys?) : Unique issued s' where
  keyed := hkeyed ▸ h.keyed
  apart := by rw [hkeys]; exact h.apart
  issued := by rw [hkeys]; exact h.issued

/-- One account's keys put down or changed to some that clash with no other's. -/
theorem replace (h : Unique issued s) (hkeyed : s'.Keyed) {id : Uuid} {o : Option Keys}
    (hkeys : ∀ user, s'.keys? user = if user = id then o else s.keys? user)
    (hfree : ∀ {k user k'}, o = some k → user ≠ id → s.keys? user = some k' → ¬ k.Clash k')
    (hissued : ∀ {k digest}, o = some k → k.digest = some digest → digest ∈ issued) :
    Unique issued s' where
  keyed := hkeyed
  apart := by
    intro user user' k k' hk hk' hclash
    rw [hkeys] at hk hk'
    -- Either account may be the one that was changed.
    split at hk <;> split at hk'
    next hu hu' => rw [hu, hu']
    next hu hu' => exact absurd hclash (hfree hk hu' hk')
    next hu hu' => exact absurd hclash.symm (hfree hk' hu hk)
    next => exact h.apart hk hk' hclash
  issued := by
    intro user k digest hk hd
    rw [hkeys] at hk
    split at hk
    next => exact hissued hk hd
    next => exact h.issued hk hd

/-- A new account has no digest, and the check before it keeps its phone and email apart. -/
theorem insertAccount (h : Unique issued s) (a : NewAccount) (now : Instant) :
    Unique issued (s.insertAccount a now).2 := by
  unfold Store.insertAccount
  split
  next => exact h
  next hexists =>
    refine h.replace (h.keyed.insert a now) (s.keys?_insert a now) ?_ (by rintro _ _ ⟨⟩ ⟨⟩)
    rintro _ user k' ⟨⟩ - hk' hclash
    obtain ⟨r, hr, rfl⟩ := keys?_eq_some_iff.mp hk'
    apply hexists
    rw [accountExists_iff]
    refine ⟨r, mem_records.mpr ⟨user, hr⟩, ?_⟩
    rcases hclash with hphone | ⟨email, he, he'⟩ | ⟨digest, hd, -⟩
    · exact .inl hphone.symm
    · exact .inr ⟨email, he, he'⟩
    · cases hd

theorem updateCredentials (h : Unique issued s) (id : Uuid) (phone hash : String) (now : Instant) :
    Unique issued (s.updateCredentials id phone hash now).2 := by
  unfold Store.updateCredentials
  split
  next => exact h
  next htaken =>
    split
    next =>
      refine h.replace ((keyed_modifyAccount_iff id fun _ => by rfl).mpr h.keyed)
        (s.keys?_modifyAccount id _) ?_ ?_
      · intro k user k' hk hne hk' hclash
        obtain ⟨r, hr, rfl⟩ := Option.map_eq_some_iff.mp hk
        have hold := keys?_eq_some_iff.mpr ⟨r, hr, rfl⟩
        obtain ⟨r', hr', rfl⟩ := keys?_eq_some_iff.mp hk'
        rcases hclash with hphone | hother
        · apply htaken
          simp only [phoneTakenByOther, List.any_eq_true, decide_eq_true_eq]
          refine ⟨r', mem_records.mpr ⟨user, hr'⟩, hphone.symm, ?_⟩
          rwa [h.keyed user r' hr']
        · exact hne (h.apart hold hk' (.inr hother)).symm
      · intro k digest hk hd
        obtain ⟨r, hr, rfl⟩ := Option.map_eq_some_iff.mp hk
        exact h.issued (keys?_eq_some_iff.mpr ⟨r, hr, rfl⟩) hd
    next => exact h

/-- A digest is put down that nobody has, or the digest of an account is forgotten. -/
theorem write (h : Unique issued s) (id : Uuid) {g : Option RefreshGrant}
    (hnew : ∀ {digest}, g.map (·.digest) = some digest → digest ∉ issued) :
    Unique (issued ++ (g.map (·.digest)).toList)
      (s.modifyAccount id fun r => { r with refresh := g }) := by
  refine (h.mono _).replace (h.keyed.write id g) (s.keys?_modifyAccount id _) ?_ ?_
  · intro k user k' hk hne hk' hclash
    obtain ⟨r, hr, rfl⟩ := Option.map_eq_some_iff.mp hk
    have hold := keys?_eq_some_iff.mpr ⟨r, hr, rfl⟩
    rcases hclash with hphone | hemail | ⟨digest, hd, hd'⟩
    · exact hne (h.apart hold hk' (.inl hphone)).symm
    · exact hne (h.apart hold hk' (.inr (.inl hemail))).symm
    · -- Whatever another account holds was issued before, and this digest was not.
      exact hnew hd (h.issued hk' hd')
  · intro k digest hk hd
    obtain ⟨r, -, rfl⟩ := Option.map_eq_some_iff.mp hk
    rw [List.mem_append]
    exact .inr (Option.mem_toList.mpr hd)

/-! Searches in any order. -/

theorem eq_of_clash (h : Unique issued s) {e e' : Uuid × AccountRecord}
    (he : e ∈ s.accounts.toList) (he' : e' ∈ s.accounts.toList)
    (hclash : e.2.keys.Clash e'.2.keys) : e = e' := by
  have he := Std.ExtTreeMap.mem_toList_iff_getElem?_eq_some.mp he
  have he' := Std.ExtTreeMap.mem_toList_iff_getElem?_eq_some.mp he'
  have hid : e.1 = e'.1 := h.apart (keys?_eq_some_iff.mpr ⟨_, he, rfl⟩)
    (keys?_eq_some_iff.mpr ⟨_, he', rfl⟩) hclash
  rw [hid, he'] at he
  exact Prod.ext hid (Option.some.inj he).symm

end Unique

end Store

/-- A search for what at most one item is does not depend on the order. -/
theorem find?_eq_of_perm {α : Type} {l l' : List α} {p : α → Bool} (hperm : l.Perm l')
    (hunique : ∀ a ∈ l, ∀ b ∈ l, p a = true → p b = true → a = b) : l.find? p = l'.find? p := by
  cases hl : l'.find? p with
  | none =>
    rw [List.find?_eq_none] at hl ⊢
    exact fun a ha => hl a (hperm.mem_iff.mp ha)
  | some b =>
    have hb := hperm.mem_iff.mpr (List.mem_of_find?_eq_some hl)
    have hpb := List.find?_some hl
    cases ha : l.find? p with
    | none => exact absurd hpb (List.find?_eq_none.mp ha b hb)
    | some a =>
      rw [hunique a (List.mem_of_find?_eq_some ha) b hb (List.find?_some ha) hpb]

namespace Store

/-- The account of a phone, if the accounts are gone through in the given order. -/
def accountByPhoneIn? (l : List (Uuid × AccountRecord)) (phone : String) : Option Account :=
  (l.find? (·.2.account.phone = phone)).map (·.2.account)

/-- The owner of a refresh token, in the given order. -/
def refreshOwnerIn? (l : List (Uuid × AccountRecord)) (digest : Bytes) (now : Instant) :
    Option Uuid :=
  (l.find? fun e => e.2.refresh.any fun g => g.digest = digest ∧ now < g.expiresAt).map
    (·.2.account.id)

/-- A refresh token is revoked at the first account that holds it, in the given order. -/
def revokeRefreshIn (l : List (Uuid × AccountRecord)) (digest : Bytes) (s : Store) : Bool × Store :=
  match l.find? fun e => AccountRecord.holds e.2 digest with
  | some e => (true, s.modifyAccount e.1 fun r => { r with refresh := none })
  | none => (false, s)

variable {s : Store} {issued : List Bytes} {l : List (Uuid × AccountRecord)}

theorem accountByPhone?_eq (s : Store) :
    s.accountByPhone? = accountByPhoneIn? s.accounts.toList := by
  funext phone
  simp [accountByPhone?, accountByPhoneIn?, records, List.find?_map, Function.comp_def]

theorem refreshOwner?_eq (s : Store) : s.refreshOwner? = refreshOwnerIn? s.accounts.toList := by
  funext digest now
  simp [refreshOwner?, refreshOwnerIn?, records, List.find?_map, Function.comp_def]

namespace Unique

theorem accountByPhoneIn?_eq (h : Unique issued s) (hperm : l.Perm s.accounts.toList) :
    accountByPhoneIn? l = s.accountByPhone? := by
  funext phone
  rw [accountByPhone?_eq, accountByPhoneIn?, accountByPhoneIn?, find?_eq_of_perm hperm]
  intro e he e' he' hp hp'
  refine h.eq_of_clash (hperm.mem_iff.mp he) (hperm.mem_iff.mp he') (.inl ?_)
  exact (of_decide_eq_true hp).trans (of_decide_eq_true hp').symm

theorem clash_of_holds {r r' : AccountRecord} {digest : Bytes}
    (h : AccountRecord.holds r digest = true) (h' : AccountRecord.holds r' digest = true) :
    r.keys.Clash r'.keys := by
  obtain ⟨g, hg, hd⟩ := (Option.any_eq_true _ _).mp h
  obtain ⟨g', hg', hd'⟩ := (Option.any_eq_true _ _).mp h'
  refine .inr (.inr ⟨digest, ?_, ?_⟩)
  · simpa [AccountRecord.keys, hg] using hd
  · simpa [AccountRecord.keys, hg'] using hd'

theorem refreshOwnerIn?_eq (h : Unique issued s) (hperm : l.Perm s.accounts.toList) :
    refreshOwnerIn? l = s.refreshOwner? := by
  funext digest now
  rw [refreshOwner?_eq, refreshOwnerIn?, refreshOwnerIn?, find?_eq_of_perm hperm]
  have hholds {e : Uuid × AccountRecord}
      (hp : (e.2.refresh.any fun g => g.digest = digest ∧ now < g.expiresAt) = true) :
      AccountRecord.holds e.2 digest = true := by
    obtain ⟨g, hg, hd⟩ := (Option.any_eq_true _ _).mp hp
    simp [AccountRecord.holds, hg, (of_decide_eq_true hd).1]
  exact fun e he e' he' hp hp' => h.eq_of_clash (hperm.mem_iff.mp he) (hperm.mem_iff.mp he')
    (clash_of_holds (hholds hp) (hholds hp'))

theorem revokeRefreshIn_eq (h : Unique issued s) (hperm : l.Perm s.accounts.toList)
    (digest : Bytes) : revokeRefreshIn l digest s = s.revokeRefresh digest := by
  rw [revokeRefreshIn, find?_eq_of_perm hperm]
  · rfl
  · exact fun e he e' he' hp hp' => h.eq_of_clash (hperm.mem_iff.mp he)
      (hperm.mem_iff.mp he') (clash_of_holds hp hp')

end Unique

end Store

/-! Operations. -/

theorem Password.exists_validation {password : String} {e : Error}
    (h : validate password = .error e) : ∃ message, e = .validation message := by
  unfold validate at h
  split at h
  next rule _ => exact ⟨_, (Except.error.inj h).symm⟩
  next => cases h

namespace Authentication

theorem Registration.exists_validation {r : Registration} {e : Error}
    (h : Registration.validate r = .error e) : ∃ message, e = .validation message := by
  unfold Registration.validate at h
  rcases error_of_bind h with h | ⟨-, -, h⟩
  · exact ⟨_, (Phone.validate_eq_error_iff.mp h).2.symm⟩
  dsimp only at h
  split at h
  next => exact Password.exists_validation h
  next => exact ⟨_, (Except.error.inj h).symm⟩

/-- A registration with a phone or email that is taken is refused and leaves the store alone. -/
theorem register_taken {s : Store} {r : Registration}
    (htaken : s.accountExists (Phone.normalize r.phone) (Email.normalize r.email) = true)
    (wall : Instant) (id : Uuid) (salt : Bytes) :
    ∃ e, (register wall id salt r).perform (.ready s) = (.error e, .ready s) ∧
      (e = .conflict "user already exists" ∨ ∃ message, e = .validation message) := by
  rw [perform_register_ready]
  cases hv : Registration.validate r with
  | error e => exact ⟨e, rfl, .inr (Registration.exists_validation hv)⟩
  | ok u =>
    have hinsert : s.insertAccount (Registration.account r id salt) wall =
        (.error (.conflict "user already exists"), s) := if_pos htaken
    exact ⟨_, by simp [hinsert, Except.map], .inl rfl⟩

end Authentication

/-- An edit is one update of the credentials, after which the account is read back. -/
theorem Profiles.perform_edit_ready (wall : Instant) (salt : Bytes) (id : Uuid)
    (phone password : String) (s : Store) :
    (edit wall salt id phone password).perform (.ready s) =
      match Phone.validate (Phone.normalize phone), Password.validate password with
      | .error e, _ | .ok (), .error e => (.error e, .ready s)
      | .ok (), .ok () =>
        let (known, s') :=
          s.updateCredentials id (Phone.normalize phone) (Password.hash salt password) wall
        match known with
        | .error e => (.error e, .ready s')
        | .ok known =>
          (if known then ((s'.account? id).map Account.profile).elim (.error (.notFound "user")) .ok
            else .error (.notFound "user"), .ready s') := by
  unfold edit
  dsimp only
  rw [Action.perform_bind, Action.perform_liftM]
  cases Phone.validate (Phone.normalize phone) with
  | error e => rfl
  | ok u =>
    dsimp only
    rw [Action.perform_bind, Action.perform_liftM]
    cases Password.validate password with
    | error e => rfl
    | ok u =>
      dsimp only
      rw [Action.perform_bind, Action.perform_call_ready]
      cases hknown :
          (s.updateCredentials id (Phone.normalize phone) (Password.hash salt password) wall).1 with
      | error e => simp
      | ok known =>
        dsimp only
        rw [Action.perform_bind, Action.perform_require]
        cases known <;> simp [get, Action.perform_bind]

/-! Runs. -/

/-- The digest of the refresh token in an answer. -/
def answerDigest? : Except Error Reply → Option Bytes
  | .ok (.tokens pair) => some (Token.Refresh.digest pair.refresh)
  | _ => none

/-- The digests of all refresh tokens that a run handed out. -/
def Database.digests (ms : List Moment) : List Bytes := ms.filterMap fun m => answerDigest? m.answer

theorem Database.digests_concat (ms : List Moment) (m : Moment) :
    digests (ms ++ [m]) = digests ms ++ (answerDigest? m.answer).toList := by
  cases h : answerDigest? m.answer <;> simp [digests, h]

theorem Authentication.digest_of_session {c : Settings} {clocks : Clocks} {random : Bytes}
    {access : Except Error Duration} {a : Account} {pair : TokenPair} {g : RefreshGrant}
    (h : session c clocks random access a = .ok (pair, g)) :
    g.digest = Token.Refresh.digest pair.refresh := by
  obtain ⟨d, -, h⟩ := ok_of_bind h
  obtain ⟨pair', -, h⟩ := ok_of_bind h
  obtain ⟨lifetime, -, h⟩ := ok_of_bind h
  obtain ⟨t, -, h⟩ := ok_of_bind h
  cases h
  rfl

namespace Store.Unique

variable {c : Settings} {issued : List Bytes} {s s' : Store} {now : Circumstances}

/-- An event whose token, if it hands one out, is new keeps the accounts apart. -/
def Step (c : Settings) (issued : List Bytes) (s : Store) (e : Event) : Prop :=
  ∃ answer s', e.answer c (.ready s) = (answer, .ready s') ∧
    ((issued ++ (answerDigest? answer).toList).Nodup →
      Unique (issued ++ (answerDigest? answer).toList) s')

/-- Without a token in the answer the digests stay those of the tokens before. -/
theorem step_of_eq {e : Event} {answer : Except Error Reply}
    (hperform : e.answer c (.ready s) = (answer, .ready s')) (h : Unique issued s') :
    Step c issued s e := ⟨answer, s', hperform, fun _ => h.mono _⟩

/-- A token that is handed out is put down for an account in place of the one before. -/
theorem step_of_write (h : Unique issued s) {e : Event} {pair : TokenPair} {id : Uuid}
    {g : RefreshGrant} (hg : g.digest = Token.Refresh.digest pair.refresh)
    (hperform : e.answer c (.ready s') =
      (.ok (.tokens pair), .ready (s.modifyAccount id fun r => { r with refresh := some g }))) :
    Step c issued s' e := by
  refine ⟨_, _, hperform, fun hnodup => ?_⟩
  have hdigest : answerDigest? (.ok (.tokens pair)) = (some g).map (·.digest) := by
    rw [Option.map_some, hg]
    rfl
  rw [hdigest] at hnodup ⊢
  refine h.write id fun hd hmem => ?_
  exact List.disjoint_of_nodup_append hnodup hmem (Option.mem_toList.mpr hd)

theorem step_register (h : Unique issued s) (r : Registration) :
    Step c issued s ⟨now, .register r⟩ := by
  have hperform : Event.answer c ⟨now, .register r⟩ (.ready s) = _ := Action.perform_map ..
  rw [Authentication.perform_register_ready] at hperform
  cases hv : Authentication.Registration.validate r with
  | error e =>
    simp only [hv] at hperform
    exact step_of_eq hperform h
  | ok u =>
    simp only [hv] at hperform
    exact step_of_eq hperform (h.insertAccount _ _)

theorem step_login (h : Unique issued s) (spelling password : String) :
    Step c issued s ⟨now, .login spelling password⟩ := by
  have hperform : Event.answer c ⟨now, .login spelling password⟩ (.ready s) = _ :=
    Action.perform_map ..
  obtain ⟨answer, s', ha, ho⟩ := Authentication.login_outcome c now.clocks now.entropy.token
    spelling password s
  rw [ha] at hperform
  have hchecked : Unique issued (Authentication.checked now.clocks.service spelling s) :=
    h.of_views_eq rfl rfl
  cases ho with
  | refused | locked => exact step_of_eq hperform h
  | failed => exact step_of_eq hperform (hchecked.of_views_eq rfl rfl)
  | unissued => exact step_of_eq hperform hchecked
  | admitted a pair g hx hi hs =>
    have hmem : a.id ∈ (Authentication.checked now.clocks.service spelling s).accounts :=
      h.keyed.mem_of_accountByPhone? (Option.filter_eq_some_iff.mp hi).1
    rw [saveRefresh_eq hmem] at hperform
    exact hchecked.step_of_write (Authentication.digest_of_session hs) hperform

theorem step_refresh (h : Unique issued s) (token : String) :
    Step c issued s ⟨now, .refresh token⟩ := by
  have hperform : Event.answer c ⟨now, .refresh token⟩ (.ready s) = _ := Action.perform_map ..
  by_cases hempty : token = ""
  · subst hempty
    exact step_of_eq hperform h
  rw [Authentication.perform_refresh_ready hempty] at hperform
  split at hperform
  next => exact step_of_eq hperform h
  next a _ =>
    split at hperform
    next => exact step_of_eq hperform h
    next pair g hs =>
      rw [rotateRefresh_eq] at hperform
      by_cases hholds : ((s.grant? a.id).any (·.digest = Token.Refresh.digest token)) = true
      · rw [if_pos hholds] at hperform
        exact h.step_of_write (Authentication.digest_of_session hs) hperform
      · rw [if_neg hholds] at hperform
        exact step_of_eq hperform h

theorem step_logout (h : Unique issued s) (token : String) :
    Step c issued s ⟨now, .logout token⟩ := by
  have hperform : Event.answer c ⟨now, .logout token⟩ (.ready s) = _ := Action.perform_map ..
  by_cases hempty : token = ""
  · subst hempty
    exact step_of_eq hperform h
  rw [Authentication.perform_logout_ready hempty] at hperform
  rcases s.revokeRefresh_cases (Token.Refresh.digest token) with
    ⟨id, g, -, -, hrevoke⟩ | ⟨-, hrevoke⟩
  · rw [hrevoke] at hperform
    have hforgotten := h.write id (g := none) nofun
    rw [Option.map_none, Option.toList_none, List.append_nil] at hforgotten
    exact step_of_eq hperform hforgotten
  · rw [hrevoke] at hperform
    exact step_of_eq hperform h

theorem step_editUser (h : Unique issued s) (user : Uuid) (phone password : String) :
    Step c issued s ⟨now, .editUser user phone password⟩ := by
  have hperform : Event.answer c ⟨now, .editUser user phone password⟩ (.ready s) = _ :=
    Action.perform_map ..
  rw [Profiles.perform_edit_ready] at hperform
  split at hperform
  next => exact step_of_eq hperform h
  next => exact step_of_eq hperform h
  next =>
    dsimp only at hperform
    split at hperform
    next => exact step_of_eq hperform (h.updateCredentials _ _ _ _)
    next => exact step_of_eq hperform (h.updateCredentials _ _ _ _)

/-- One event of a run, whatever it is. -/
theorem step (h : Unique issued s) (e : Event) : Step c issued s e := by
  obtain ⟨now, o⟩ := e
  have hkept (hp : ∀ p ∈ o.parts, p ≠ .accounts ∧ p ≠ .credentials ∧ p ≠ .tokens) :
      Step c issued s ⟨now, o⟩ := by
    obtain ⟨s', hs'⟩ := Event.exists_ready c ⟨now, o⟩ s
    refine step_of_eq (Prod.ext rfl hs') (h.of_views_eq ?_ ?_)
    · exact Event.view_eq hs' fun p hmem => hidden_keyed (hp p hmem).1
    · exact Event.view_eq hs' fun p hmem => hidden_keys (hp p hmem).1 (hp p hmem).2.1
        (hp p hmem).2.2
  cases o with
  | register r => exact h.step_register r
  | login spelling password => exact h.step_login spelling password
  | refresh token => exact h.step_refresh token
  | logout token => exact h.step_logout token
  | editUser user phone password => exact h.step_editUser user phone password
  | _ => exact hkept (by simp [Operation.parts])

end Store.Unique

namespace Database

open Store

/-- The accounts stay apart over every run that hands out no token twice. -/
theorem unique_after (c : Settings) (events : List Event)
    (hdistinct : (digests ((ready .empty).moments c events)).Nodup) :
    ∃ s, (ready .empty).after c events = .ready s ∧
      Unique (digests ((ready .empty).moments c events)) s := by
  refine after_induction (Q := fun events => (digests ((ready .empty).moments c events)).Nodup)
    (P := fun events s => Unique (digests ((ready .empty).moments c events)) s) ?_ ?_ ?_ hdistinct
  · intro events e hdistinct
    rw [moments_concat, digests_concat] at hdistinct
    exact hdistinct.of_append_left
  · exact .empty
  · intro events e s s' hdistinct hs ih hstep
    rw [moments_concat, digests_concat] at hdistinct ⊢
    obtain ⟨answer, t, hanswer, hunique⟩ := ih.step e
    rw [hs, hanswer] at hdistinct ⊢
    rw [hanswer] at hstep
    cases hstep
    exact hunique hdistinct

/-- After every run, each account is filed under its own identifier and no two share a phone, an
email or a refresh digest. So searches by phone or token, and the revocation of a token, do the same
in whatever order the accounts are gone through, and a registration for a phone or email that an
account has is refused and leaves the store as it was. -/
theorem accounts_unique (c : Settings) (events : List Event)
    (hdistinct : (digests ((ready .empty).moments c events)).Nodup) :
    ∃ s, (ready .empty).after c events = .ready s ∧
      (∀ (id : Uuid) r, s.accounts[id]? = some r → r.account.id = id) ∧
      (∀ (id id' : Uuid) r r', s.accounts[id]? = some r → s.accounts[id']? = some r' → id ≠ id' →
        r.account.phone ≠ r'.account.phone ∧
        (∀ email, r.account.email = some email → r'.account.email ≠ some email) ∧
        ∀ g g', r.refresh = some g → r'.refresh = some g' → g.digest ≠ g'.digest) ∧
      (∀ l, l.Perm s.accounts.toList →
        accountByPhoneIn? l = s.accountByPhone? ∧ refreshOwnerIn? l = s.refreshOwner? ∧
        ∀ digest, revokeRefreshIn l digest s = s.revokeRefresh digest) ∧
      ∀ (now : Circumstances) (q : Registration) (id : Uuid) r, s.accounts[id]? = some r →
        r.account.phone = Phone.normalize q.phone ∨
          (∃ email, Email.normalize q.email = some email ∧ r.account.email = some email) →
        ∃ e, Event.answer c ⟨now, .register q⟩ (.ready s) = (.error e, .ready s) ∧
          (e = .conflict "user already exists" ∨ ∃ message, e = .validation message) := by
  obtain ⟨s, hs, hunique⟩ := unique_after c events hdistinct
  refine ⟨s, hs, hunique.keyed, ?_, ?_, ?_⟩
  · intro id id' r r' hr hr' hne
    have hclash : ¬ r.keys.Clash r'.keys := fun h => hne (hunique.apart
      (keys?_eq_some_iff.mpr ⟨r, hr, rfl⟩) (keys?_eq_some_iff.mpr ⟨r', hr', rfl⟩) h)
    refine ⟨fun h => hclash (.inl h), fun email h h' => hclash (.inr (.inl ⟨email, h, h'⟩)), ?_⟩
    intro g g' hg hg' hd
    refine hclash (.inr (.inr ⟨g.digest, ?_, ?_⟩))
    · rw [AccountRecord.keys, hg]
      rfl
    · rw [AccountRecord.keys, hg', hd]
      rfl
  · exact fun l hperm => ⟨hunique.accountByPhoneIn?_eq hperm, hunique.refreshOwnerIn?_eq hperm,
      hunique.revokeRefreshIn_eq hperm⟩
  · intro now q id r hr htaken
    have hexists := accountExists_iff.mpr ⟨r, mem_records.mpr ⟨id, hr⟩, htaken⟩
    obtain ⟨e, hperform, he⟩ := Authentication.register_taken hexists now.clocks.wall
      now.entropy.id now.entropy.salt
    refine ⟨e, ?_, he⟩
    have hanswer : Event.answer c ⟨now, .register q⟩ (.ready s) = _ := Action.perform_map ..
    rw [hanswer, hperform]
    rfl

/-- Two users with an address and a refresh token each. They are told apart by all of their keys, and
found by them whichever comes first. The address of one is taken in any other spelling of it. -/
theorem two_users_told_apart :
    let c := Settings.ofSecret "secret"
    let now (id : Uuid) (random : UInt8) : Circumstances :=
      ⟨⟨.ofSeconds 0 0, .ofSeconds 0 0⟩, ⟨id, List.replicate 16 7, List.replicate 32 random⟩⟩
    let digest (random : UInt8) :=
      Token.Refresh.digest (Token.Refresh.ofBytes (List.replicate 32 random))
    let ann : Registration := ⟨"+15551234567", some "Ann@example.org", "Passw0rd!", none, none⟩
    let bob : Registration := ⟨"+15557654321", some "bob@example.org", "Passw0rd!", none, none⟩
    let again : Registration := ⟨"+15550000000", some " ANN@EXAMPLE.ORG ", "Passw0rd!", none, none⟩
    let events : List Event :=
      [⟨now ⟨1⟩ 0, .register ann⟩, ⟨now ⟨1⟩ 1, .login ann.phone ann.password⟩,
        ⟨now ⟨2⟩ 0, .register bob⟩, ⟨now ⟨2⟩ 2, .login bob.phone bob.password⟩]
    ∃ s r r' g g', (ready .empty).after c events = .ready s ∧
      s.accounts[(⟨1⟩ : Uuid)]? = some r ∧ s.accounts[(⟨2⟩ : Uuid)]? = some r' ∧
      r.account.email = some "ann@example.org" ∧ r'.account.email = some "bob@example.org" ∧
      r.refresh = some g ∧ g.digest = digest 1 ∧ r'.refresh = some g' ∧ g'.digest = digest 2 ∧
      r.account.phone ≠ r'.account.phone ∧ r.account.email ≠ r'.account.email ∧
      g.digest ≠ g'.digest ∧
      (∀ l, l.Perm s.accounts.toList →
        accountByPhoneIn? l bob.phone = s.accountByPhone? bob.phone ∧
        revokeRefreshIn l (digest 2) s = s.revokeRefresh (digest 2)) ∧
      Event.answer c ⟨now ⟨3⟩ 0, .register again⟩ (.ready s) =
        (.error (.conflict "user already exists"), .ready s) := by
  intro c now digest ann bob again events
  have haccess : c.accessLifetime = .ok (.ofMinutes 60) := by decide
  have hrefresh : c.refreshLifetime = .ok (.ofMinutes 10080) := by decide
  -- The run, user by user.
  let begun (phone : String) (id : Uuid) (random : UInt8) : Store → Store :=
    Authentication.begun (.ofMinutes 10080) (now id random).clocks (now id random).entropy.token
      phone id
  let s₁ : Store := { Store.empty with
    accounts := Store.empty.accounts.insert ⟨1⟩ (ann.record (now ⟨1⟩ 0)) }
  let s₂ : Store := begun ann.phone ⟨1⟩ 1 s₁
  let s₃ : Store := { s₂ with accounts := s₂.accounts.insert ⟨2⟩ (bob.record (now ⟨2⟩ 0)) }
  let s₄ : Store := begun bob.phone ⟨2⟩ 2 s₃
  have hann : Event.answer c ⟨now ⟨1⟩ 0, .register ann⟩ (.ready .empty) =
      (.ok (.registered ⟨1⟩), .ready s₁) :=
    Event.answer_register (by decide) (by decide +kernel)
  have hstart : (ready .empty).after c [] = .ready .empty := rfl
  have hphone : Phone.normalize ann.phone = Phone.normalize ann.phone := rfl
  obtain ⟨hafter, access, hmoments⟩ := run_first_login (by decide) haccess hrefresh hstart hann
    (by decide) (now ⟨1⟩ 1) hphone rfl (by decide)
  have hbob : Event.answer c ⟨now ⟨2⟩ 0, .register bob⟩ (.ready s₂) =
      (.ok (.registered ⟨2⟩), .ready s₃) :=
    Event.answer_register (by decide) (by decide +kernel)
  have hphone' : Phone.normalize bob.phone = Phone.normalize bob.phone := rfl
  obtain ⟨hafter, access', hmoments'⟩ := run_first_login (by decide) haccess hrefresh hafter hbob
    (by decide) (now ⟨2⟩ 2) hphone' (by decide +kernel) (by decide)
  rw [hmoments] at hmoments'
  have hdigests : digests ((ready .empty).moments c events) = [digest 1, digest 2] :=
    congrArg digests hmoments'
  -- The keys of both.
  have hannKeys (user : Uuid) : s₂.keys? user =
      if user = ⟨1⟩ then
        some ⟨⟨1⟩, Phone.normalize ann.phone, Email.normalize ann.email, some (digest 1)⟩
      else Store.empty.keys? user := Store.empty.keys?_first_login ann (now ⟨1⟩ 0) ..
  have hbobKeys (user : Uuid) : s₄.keys? user =
      if user = ⟨2⟩ then
        some ⟨⟨2⟩, Phone.normalize bob.phone, Email.normalize bob.email, some (digest 2)⟩
      else s₂.keys? user := s₂.keys?_first_login bob (now ⟨2⟩ 0) ..
  obtain ⟨r, hr, hkeys⟩ := keys?_eq_some_iff.mp <|
    (hbobKeys ⟨1⟩).trans <| (if_neg (by decide)).trans <| (hannKeys ⟨1⟩).trans (if_pos rfl)
  obtain ⟨r', hr', hkeys'⟩ := keys?_eq_some_iff.mp <| (hbobKeys ⟨2⟩).trans (if_pos rfl)
  obtain ⟨g, hg, hdigest⟩ := Option.map_eq_some_iff.mp (congrArg Keys.digest hkeys)
  obtain ⟨g', hg', hdigest'⟩ := Option.map_eq_some_iff.mp (congrArg Keys.digest hkeys')
  have hemail : r.account.email = some "ann@example.org" :=
    (congrArg Keys.email hkeys).trans (by decide +kernel)
  have hemail' : r'.account.email = some "bob@example.org" :=
    (congrArg Keys.email hkeys').trans (by decide +kernel)
  have hne : digest 1 ≠ digest 2 := by decide +kernel
  obtain ⟨s, hs, -, hapart, horder, htaken⟩ := accounts_unique c events (by
    rw [hdigests]
    exact List.nodup_cons.mpr ⟨fun he => hne (List.mem_singleton.mp he), List.nodup_singleton _⟩)
  obtain rfl : s = s₄ := Database.ready.inj (hs.symm.trans hafter)
  obtain ⟨hphones, hemails, hgrants⟩ := hapart ⟨1⟩ ⟨2⟩ r r' hr hr' (by decide)
  refine ⟨s₄, r, r', g, g', hs, hr, hr', hemail, hemail', hg, hdigest, hg', hdigest', hphones, ?_,
    hgrants g g' hg hg', fun l hperm => ?_, ?_⟩
  · rw [hemail, ne_comm]
    exact hemails _ hemail
  · obtain ⟨hphone, -, hrevoke⟩ := horder l hperm
    exact ⟨congrFun hphone bob.phone, hrevoke (digest 2)⟩
  · obtain ⟨e, hrefused, -⟩ := htaken (now ⟨3⟩ 0) again ⟨1⟩ r hr
      (.inr ⟨"ann@example.org", by decide +kernel, hemail⟩)
    have hvalid : Authentication.Registration.validate again = .ok () := by decide
    rcases Event.answer_register_cases c (now ⟨3⟩ 0) again s₄ with
      ⟨e', hinvalid, -⟩ | ⟨-, ⟨-, hconflict⟩ | ⟨-, hopened⟩⟩
    · rw [hvalid] at hinvalid
      cases hinvalid
    · exact hconflict
    · rw [hopened] at hrefused
      cases hrefused

end Database

end Turnstile

import Turnstile.Proofs.Accounts
import Turnstile.Proofs.Authentication
import Turnstile.Proofs.Guard
import Turnstile.Proofs.Issuance
import Turnstile.Proofs.Passwords
import Turnstile.Proofs.Runs

/-! From a registration over the first login to the first call. What each part writes down, the
phone, the password hash, the access token, the next part reads as it was meant. -/
namespace Turnstile

/-! Bearer lines. -/

namespace Text

theorem trimmed_pad {s : List Char} (hs : s ≠ []) (hblank : ∀ c ∈ s, isBlank c = false)
    (m n : Nat) : trimmed (List.replicate m ' ' ++ s ++ List.replicate n ' ') = s := by
  have hdrop (k : Nat) {t : List Char} (ht : t ≠ []) (hblank : ∀ c ∈ t, isBlank c = false)
      (rest : List Char) : (List.replicate k ' ' ++ (t ++ rest)).dropWhile isBlank = t ++ rest := by
    rw [List.dropWhile_append_of_pos fun c hc => by rw [List.eq_of_mem_replicate hc]; rfl]
    obtain ⟨c, t, rfl⟩ := List.exists_cons_of_ne_nil ht
    rw [List.cons_append, List.dropWhile_cons_of_neg]
    simp [hblank c (by simp)]
  unfold trimmed
  rw [List.append_assoc, hdrop m hs hblank, List.reverse_append, List.reverse_replicate]
  have hback := hdrop n (t := s.reverse) (by simpa using hs) (by simpa using hblank) []
  rw [List.append_nil] at hback
  rw [hback, List.reverse_reverse]

end Text

namespace Token

/-- The characters of a token are letters, digits, the two of the alphabet and the dots. -/
theorem mem_signedText {secret : String} {c : Claims} {p : Char → Prop} (hdot : p '.')
    (hchar : ∀ m : Fin 64, p (Base64.Alphabet.urlSafe.char m)) :
    ∀ ch ∈ (signedText secret c).toList, p ch := by
  have hencode (b : Bytes) := Base64.forall_mem_encode hchar b
  unfold signedText joined signingInput
  dsimp only
  rw [String.toList_ofList]
  intro ch hch
  simp only [List.mem_append, List.mem_cons] at hch
  rcases hch with (h | rfl | h) | rfl | h
  · exact hencode _ ch h
  · exact hdot
  · exact hencode _ ch h
  · exact hdot
  · exact hencode _ ch h

end Token

namespace Http

theorem Headers.isVisible_of_toLower {c : Char} (h : isVisible c.toLower = true) :
    isVisible c = true := by
  unfold Char.toLower at h
  split at h
  next hupper =>
    have hlow : 65 ≤ c.toNat := hupper.1
    have hhigh : c.toNat ≤ 90 := hupper.2
    simp only [isVisible, Bool.or_eq_true, Bool.and_eq_true, decide_eq_true_eq]
    omega
  next => exact h

/-- Any case of the scheme and any spaces around the token. -/
theorem bearer?_padded {headers : Headers} {scheme : List Char} {token : String} {m n : Nat}
    (hscheme : scheme.map Char.toLower = "bearer".toList) (hne : token.toList ≠ [])
    (hvisible : ∀ c ∈ token.toList, Headers.isVisible c = true)
    (hblank : ∀ c ∈ token.toList, Text.isBlank c = false)
    (hfirst : headers.first? "authorization" = some (String.ofList
      (scheme ++ ' ' :: (List.replicate m ' ' ++ token.toList ++ List.replicate n ' ')))) :
    headers.bearer? = some token := by
  have hletter : ∀ c ∈ scheme, c.toLower ∈ "bearer".toList := by
    intro c hc
    rw [← hscheme]
    exact List.mem_map_of_mem hc
  have hspace : ' ' ∉ scheme := fun h => absurd (hletter ' ' h) (by decide)
  have hall : "bearer".toList.all Headers.isVisible = true := by decide
  have hline : (scheme ++ ' ' :: (List.replicate m ' ' ++ token.toList ++
      List.replicate n ' ')).all Headers.isVisible = true := by
    rw [List.all_eq_true]
    intro c hc
    simp only [List.mem_append, List.mem_cons, List.mem_replicate] at hc
    rcases hc with h | rfl | (⟨-, rfl⟩ | h) | ⟨-, rfl⟩
    · exact Headers.isVisible_of_toLower (List.all_eq_true.mp hall _ (hletter c h))
    · decide
    · decide
    · exact hvisible c h
    · decide
  have hbearer : bearerOfLine? (scheme ++ ' ' :: (List.replicate m ' ' ++ token.toList ++
      List.replicate n ' ')) = some token := by
    rw [bearerOfLine?_eq_some_iff]
    refine ⟨scheme, _, rfl, hspace, hscheme, ?_⟩
    rw [Text.trimmed_pad hne hblank m n]
    exact ⟨hne, String.ofList_toList.symm⟩
  rw [Headers.bearer?, Headers.visible?, hfirst, Option.filter_some, String.toList_ofList,
    if_pos hline, Option.bind_some, String.toList_ofList, hbearer]

end Http

/-! Logging in after registering. -/

theorem Settings.lifetime_bounds {what : String} {minutes : Int} {d : Duration}
    (h : lifetime what minutes = .ok d) :
    0 ≤ d.nanos ∧ d.nanos ≤ Duration.maxMillis * 1000000 := by
  obtain ⟨⟨hpos, hfits⟩, rfl⟩ := lifetime_eq_ok_iff.mp h
  simp only [Duration.ofMinutes, Duration.ofSeconds] at *
  omega

namespace Store

/-- A registered phone leads to its account, since nobody had it before. -/
theorem accountByPhone?_of_insert {s s' : Store} {a : NewAccount} {now : Instant}
    (h : s.phoneTaken a.phone = false) (hs' : s'.accounts = s.accounts.insert a.id (a.record now)) :
    s'.accountByPhone? a.phone = some (a.record now).account := by
  have hmem {r : AccountRecord} (hr : r ∈ s'.records) : r = a.record now ∨ r ∈ s.records := by
    obtain ⟨id, hid⟩ := mem_records.mp hr
    rw [hs', Std.ExtTreeMap.getElem?_insert] at hid
    split at hid
    next => exact .inl (Option.some.inj hid).symm
    next => exact .inr (mem_records.mpr ⟨id, hid⟩)
  have hnew : a.record now ∈ s'.records :=
    mem_records.mpr ⟨a.id, by rw [hs']; exact Std.ExtTreeMap.getElem?_insert_self⟩
  unfold accountByPhone?
  cases hfind : s'.records.find? (·.account.phone = a.phone) with
  | none => exact absurd (decide_eq_true rfl) (List.find?_eq_none.mp hfind _ hnew)
  | some r =>
    rcases hmem (List.mem_of_find?_eq_some hfind) with rfl | hold
    · rfl
    · have hphone := List.find?_some hfind
      have htaken : s.phoneTaken a.phone = true := List.any_eq_true.mpr ⟨r, hold, hphone⟩
      rw [h] at htaken
      cases htaken

end Store

namespace Authentication

/-- What an accepted registration has been through, and the store it leaves. -/
theorem of_register_eq_ok {wall : Instant} {id id' : Uuid} {salt : Bytes} {r : Registration}
    {s : Store} {db : Database}
    (h : (register wall id salt r).perform (.ready s) = (.ok id', db)) :
    id' = id ∧ Registration.validate r = .ok () ∧ s.phoneTaken (Phone.normalize r.phone) = false ∧
      db = .ready { s with
        accounts := s.accounts.insert id ((Registration.account r id salt).record wall) } := by
  rw [perform_register_ready] at h
  cases hv : Registration.validate r with
  | error e =>
    rw [hv] at h
    cases h
  | ok u =>
    rw [hv] at h
    dsimp only [Store.insertAccount] at h
    split at h
    next => cases h
    next hexists =>
      cases h
      refine ⟨rfl, rfl, ?_, rfl⟩
      simp only [Store.accountExists, Bool.or_eq_true, not_or, Bool.not_eq_true] at hexists
      exact hexists.1

theorem of_validate_eq_ok {r : Registration} (h : Registration.validate r = .ok ()) :
    Phone.wellFormed (Phone.normalize r.phone) = true ∧ r.password ≠ "" := by
  unfold Registration.validate at h
  obtain ⟨_, hphone, h⟩ := ok_of_bind h
  refine ⟨Phone.validate_eq_ok_iff.mp hphone, ?_⟩
  rintro he
  dsimp only at h
  rw [he] at h
  split at h
  next => cases h
  next => cases h

/-- With a usable secret and lifetimes the session of an account is issued. -/
theorem session_eq {c : Settings} {clocks : Clocks} {access : Except Error Duration}
    {lifetime refresh : Duration} (hsecret : c.secret ≠ "") (haccess : access = .ok lifetime)
    (hrefresh : c.refreshLifetime = .ok refresh)
    (hexpiry : (clocks.service.after refresh).Representable) (random : Bytes) (a : Account) :
    session c clocks random access a =
      .ok (⟨Token.signedText c.secret
          (.issued clocks.wall a.id a.phone a.roles a.entitlements lifetime),
        Token.Refresh.ofBytes random⟩,
        ⟨Token.Refresh.digest (Token.Refresh.ofBytes random), clocks.service.after refresh⟩) := by
  have hissue := Token.issue_eq hsecret clocks.wall a.id a.phone a.roles a.entitlements lifetime
  have hexpires := expiry_eq_ok.mpr ⟨hexpiry, rfl⟩
  simp only [session, issuePair, haccess, hrefresh, hissue, hexpires, bind, Except.bind, pure,
    Except.pure]

/-- The store once a login has begun a session for a user. -/
def begun (lifetime : Duration) (clocks : Clocks) (random : Bytes) (spelling : String) (id : Uuid)
    (s : Store) : Store :=
  (checked clocks.service spelling s).modifyAccount id fun a =>
    { a with
      refresh := some ⟨Token.Refresh.digest (Token.Refresh.ofBytes random),
        clocks.service.after lifetime⟩ }

/-- The first login after a registration, under whatever spelling of the phone: it begins a session
of the new account. -/
theorem login_registered {c : Settings} {clocks : Clocks} {access refresh : Duration}
    (hsecret : c.secret ≠ "") (haccess : c.accessLifetime = .ok access)
    (hrefresh : c.refreshLifetime = .ok refresh)
    (hexpiry : (clocks.service.after refresh).Representable) {wall : Instant} {id : Uuid}
    {salt : Bytes} {r : Registration} {s s' : Store}
    (hregister : (register wall id salt r).perform (.ready s) = (.ok id, .ready s'))
    (hsalt : salt.length = Password.saltLength) {spelling : String}
    (hspelling : Phone.normalize spelling = Phone.normalize r.phone)
    (hunlocked : Lockout.lockOn? clocks.service s'.ledger[Phone.normalize spelling]? = none)
    (random : Bytes) :
    (login c clocks random spelling r.password).perform (.ready s') =
      (.ok ⟨Token.signedText c.secret
          (.issued clocks.wall id (Phone.normalize r.phone) [] [] access),
        Token.Refresh.ofBytes random⟩,
        .ready (begun refresh clocks random spelling id s')) := by
  obtain ⟨-, hvalid, htaken, hs'⟩ := of_register_eq_ok hregister
  obtain rfl := Database.ready.inj hs'
  obtain ⟨hphone, hpassword⟩ := of_validate_eq_ok hvalid
  let s' : Store := { s with
    accounts := s.accounts.insert id ((Registration.account r id salt).record wall) }
  let a : Account := ((Registration.account r id salt).record wall).account
  have hidentify : identify? s' (Phone.normalize spelling) r.password = some a := by
    have haccount : s'.accountByPhone? (Phone.normalize r.phone) = some a :=
      Store.accountByPhone?_of_insert (a := Registration.account r id salt) htaken rfl
    rw [identify?, hspelling, haccount, Option.filter_some]
    exact if_pos (Password.verify_hash hsalt r.password)
  have hmem : a.id ∈ (checked clocks.service spelling s').accounts :=
    Std.ExtTreeMap.mem_insert_self
  rw [perform_login_examined c random ⟨hpassword, hspelling ▸ hphone, hunlocked⟩ hidentify,
    session_eq hsecret haccess hrefresh hexpiry]
  dsimp only
  rw [Store.saveRefresh_eq hmem]
  rfl

end Authentication

namespace Http

/-- A token issued to an account lets its bearer through as that account until it lapses, whatever
the secret is. -/
theorem authenticate_issued (secret : String) {id : Uuid} {phone : String}
    {roles entitlements : List String} {wall : Instant} {lifetime : Duration}
    (hwall : wall.Representable) (hepoch : 0 ≤ wall.second)
    (hlifetime : 0 ≤ lifetime.nanos ∧ lifetime.nanos ≤ Duration.maxMillis * 1000000)
    {scheme : List Char} (hscheme : scheme.map Char.toLower = "bearer".toList) {m n : Nat}
    {headers : Headers}
    (hfirst : headers.first? "authorization" = some (String.ofList (scheme ++ ' ' ::
      (List.replicate m ' ' ++
        (Token.signedText secret (.issued wall id phone roles entitlements lifetime)).toList ++
        List.replicate n ' '))))
    (now : Instant) :
    authenticate secret now headers =
      if wall.second + lifetime.seconds < now.second then .error .expired
      else .ok ⟨id, phone, roles, entitlements⟩ := by
  have hbearer := bearer?_padded hscheme (by simp [Token.signedText, Token.joined])
    (Token.mem_signedText (by decide) (by decide)) (Token.mem_signedText (by decide) (by decide))
    hfirst
  rw [authenticate, hbearer]
  dsimp only
  rw [Token.verify_issued secret id phone roles entitlements hwall hepoch hlifetime]
  split
  next => rfl
  next => rfl

end Http

/-- The record that a registration puts down. -/
def Registration.record (r : Registration) (now : Circumstances) : AccountRecord :=
  (Authentication.Registration.account r now.entropy.id now.entropy.salt).record now.clocks.wall

/-- A registration is refused for its input, meets an account with its phone or its address, or
opens an account. -/
theorem Event.answer_register_cases (c : Settings) (now : Circumstances) (q : Registration)
    (s : Store) :
    (∃ e, Authentication.Registration.validate q = .error e ∧
      answer c ⟨now, .register q⟩ (.ready s) = (.error e, .ready s)) ∨
    Authentication.Registration.validate q = .ok () ∧
      ((s.accountExists (Phone.normalize q.phone) (Email.normalize q.email) = true ∧
        answer c ⟨now, .register q⟩ (.ready s) =
          (.error (.conflict "user already exists"), .ready s)) ∨
      s.accountExists (Phone.normalize q.phone) (Email.normalize q.email) = false ∧
        answer c ⟨now, .register q⟩ (.ready s) = (.ok (.registered now.entropy.id),
          .ready { s with accounts := s.accounts.insert now.entropy.id (q.record now) })) := by
  have hperform : answer c ⟨now, .register q⟩ (.ready s) = _ := Action.perform_map ..
  rw [hperform, Authentication.perform_register_ready]
  cases Authentication.Registration.validate q with
  | error e => exact .inl ⟨e, rfl, rfl⟩
  | ok u =>
    refine .inr ⟨rfl, ?_⟩
    cases htaken : s.accountExists (Phone.normalize q.phone) (Email.normalize q.email) <;>
      simp [Store.insertAccount, Authentication.Registration.account, htaken, Except.map,
        Registration.record]

theorem Event.answer_register {c : Settings} {now : Circumstances} {q : Registration} {s : Store}
    (hvalid : Authentication.Registration.validate q = .ok ())
    (hfree : s.accountExists (Phone.normalize q.phone) (Email.normalize q.email) = false) :
    answer c ⟨now, .register q⟩ (.ready s) = (.ok (.registered now.entropy.id),
      .ready { s with accounts := s.accounts.insert now.entropy.id (q.record now) }) := by
  rcases answer_register_cases c now q s with ⟨e, he, -⟩ | ⟨-, ⟨htaken, -⟩ | ⟨-, hanswer⟩⟩
  · rw [hvalid] at he
    cases he
  · rw [hfree] at htaken
    cases htaken
  · exact hanswer

/-- An account that was registered is logged in to, and what this answers and leaves behind. -/
theorem Event.answer_login_registered {c : Settings} {access refresh : Duration}
    (hsecret : c.secret ≠ "") (haccess : c.accessLifetime = .ok access)
    (hrefresh : c.refreshLifetime = .ok refresh) {s s' : Store} {first later : Circumstances}
    {r : Registration} {id : Uuid}
    (hregister : answer c ⟨first, .register r⟩ (.ready s) = (.ok (.registered id), .ready s'))
    (hsalt : first.entropy.salt.length = Password.saltLength) {spelling : String}
    (hspelling : Phone.normalize spelling = Phone.normalize r.phone)
    (hunlocked :
      Lockout.lockOn? later.clocks.service s'.ledger[Phone.normalize spelling]? = none)
    (hexpiry : (later.clocks.service.after refresh).Representable) :
    answer c ⟨later, .login spelling r.password⟩ (.ready s') =
      (.ok (.tokens ⟨Token.signedText c.secret
          (.issued later.clocks.wall id (Phone.normalize r.phone) [] [] access),
        Token.Refresh.ofBytes later.entropy.token⟩),
        .ready (Authentication.begun refresh later.clocks later.entropy.token spelling id s')) := by
  have hperform : answer c ⟨first, .register r⟩ (.ready s) = _ := Action.perform_map ..
  rw [hregister] at hperform
  obtain ⟨hanswer, hdb⟩ := Prod.mk.inj hperform
  obtain ⟨id', hid, hreply⟩ := ok_of_map hanswer.symm
  obtain rfl : id' = id := Reply.registered.inj hreply
  have hregistered : (Authentication.register first.clocks.wall first.entropy.id first.entropy.salt
      r).perform (.ready s) = (.ok id', .ready s') := Prod.ext hid hdb.symm
  obtain ⟨rfl, -⟩ := Authentication.of_register_eq_ok hregistered
  have hlogged : answer c ⟨later, .login spelling r.password⟩ (.ready s') = _ :=
    Action.perform_map ..
  rw [hlogged, Authentication.login_registered hsecret haccess hrefresh hexpiry hregistered hsalt
    hspelling hunlocked]
  rfl

/-- A run that goes on with a registration and the first login after it. -/
theorem Database.run_first_login {c : Settings} {access refresh : Duration} (hsecret : c.secret ≠ "")
    (haccess : c.accessLifetime = .ok access) (hrefresh : c.refreshLifetime = .ok refresh)
    {db : Database} {events : List Event} {s s' : Store} (hs : db.after c events = .ready s)
    {first : Circumstances} {r : Registration} {id : Uuid}
    (hregister :
      Event.answer c ⟨first, .register r⟩ (.ready s) = (.ok (.registered id), .ready s'))
    (hsalt : first.entropy.salt.length = Password.saltLength) (later : Circumstances)
    {spelling : String} (hspelling : Phone.normalize spelling = Phone.normalize r.phone)
    (hunlocked :
      Lockout.lockOn? later.clocks.service s'.ledger[Phone.normalize spelling]? = none)
    (hexpiry : (later.clocks.service.after refresh).Representable) :
    let run := events ++ [⟨first, .register r⟩, ⟨later, .login spelling r.password⟩]
    db.after c run =
        .ready (Authentication.begun refresh later.clocks later.entropy.token spelling id s') ∧
      ∃ access, db.moments c run = db.moments c events ++
        [⟨.ready s, ⟨first, .register r⟩, .ok (.registered id)⟩,
          ⟨.ready s', ⟨later, .login spelling r.password⟩,
            .ok (.tokens ⟨access, Token.Refresh.ofBytes later.entropy.token⟩)⟩] := by
  have hlogin := Event.answer_login_registered hsecret haccess hrefresh hregister hsalt hspelling
    hunlocked hexpiry
  dsimp only
  rw [List.append_cons, after_concat, moments_concat, after_concat, moments_concat, hs, hregister,
    hlogin, List.append_assoc]
  exact ⟨rfl, _, rfl⟩

/-- Whoever registers can log in with the password and any spelling of the phone, unless the phone
is locked, and the access token of that login stands for the new account until it lapses. -/
theorem registered_admitted {c : Settings} {access refresh : Duration} (hsecret : c.secret ≠ "")
    (haccess : c.accessLifetime = .ok access) (hrefresh : c.refreshLifetime = .ok refresh)
    {s : Store} {first later : Circumstances} {r : Registration} {id : Uuid} {db : Database}
    (hregister : Event.answer c ⟨first, .register r⟩ (.ready s) = (.ok (.registered id), db))
    (hsalt : first.entropy.salt.length = Password.saltLength) {spelling : String}
    (hspelling : Phone.normalize spelling = Phone.normalize r.phone)
    (hunlocked : ((Lockout.check later.clocks.service (Phone.normalize spelling)).perform db).1 =
      .ok ())
    (hwall : later.clocks.wall.Representable) (hepoch : 0 ≤ later.clocks.wall.second)
    (hexpiry : (later.clocks.service.after refresh).Representable) :
    ∃ pair, (Event.answer c ⟨later, .login spelling r.password⟩ db).1 = .ok (.tokens pair) ∧
      ∀ (scheme : List Char) (m n : Nat) (headers : Http.Headers) (t : Instant),
        scheme.map Char.toLower = "bearer".toList →
        headers.first? "authorization" = some (String.ofList (scheme ++ ' ' ::
          (List.replicate m ' ' ++ pair.access.toList ++ List.replicate n ' '))) →
        Http.authenticate c.secret t headers =
          if later.clocks.wall.second + access.seconds < t.second then .error .expired
          else .ok ⟨id, Phone.normalize r.phone, [], []⟩ := by
  obtain ⟨s', hs'⟩ := Event.exists_ready c ⟨first, .register r⟩ s
  obtain rfl : .ready s' = db := by rw [← hs', hregister]
  have hlock : Lockout.lockOn? later.clocks.service s'.ledger[Phone.normalize spelling]? = none := by
    rw [Lockout.perform_check_ready] at hunlocked
    split at hunlocked
    next => cases hunlocked
    next hnone => exact hnone
  have hlogin := Event.answer_login_registered hsecret haccess hrefresh hregister hsalt hspelling
    hlock hexpiry
  refine ⟨_, by rw [hlogin], fun scheme m n headers t hscheme hfirst => ?_⟩
  exact Http.authenticate_issued c.secret hwall hepoch (Settings.lifetime_bounds haccess) hscheme
    hfirst t

/-- A phone registered with spaces and used without. -/
theorem spaced_registration_admitted :
    let c := Settings.ofSecret "test-secret"
    let first : Circumstances := ⟨⟨.ofSeconds 1700000000 0, .ofSeconds 0 0⟩,
      ⟨⟨1⟩, List.replicate 16 7, []⟩⟩
    let later : Circumstances := ⟨⟨.ofSeconds 1700000060 0, .ofSeconds 60 0⟩,
      ⟨⟨2⟩, [], List.replicate 32 9⟩⟩
    let db := (Event.answer c ⟨first, .register ⟨"+1 555 123 4567", none, "Passw0rd!", none,
      none⟩⟩ (.ready .empty)).2
    ∃ pair, (Event.answer c ⟨later, .login "+15551234567" "Passw0rd!"⟩ db).1 =
        .ok (.tokens pair) ∧
      ∀ t, Http.authenticate "test-secret" t [("Authorization", String.ofList ("bEARER".toList ++
          ' ' :: (List.replicate 1 ' ' ++ pair.access.toList ++ List.replicate 2 ' ')))] =
        if (1700003660 : Int) < t.second then .error .expired
        else .ok ⟨⟨1⟩, "+15551234567", [], []⟩ := by
  intro c first later db
  have haccess : c.accessLifetime = .ok (.ofMinutes 60) := by decide
  have hrefresh : c.refreshLifetime = .ok (.ofMinutes 10080) := by decide
  have hregister : Event.answer c ⟨first, .register ⟨"+1 555 123 4567", none, "Passw0rd!", none,
      none⟩⟩ (.ready .empty) = (.ok (.registered ⟨1⟩), db) := Prod.ext (by decide +kernel) rfl
  have hspelling : Phone.normalize "+15551234567" = Phone.normalize "+1 555 123 4567" := by decide
  have hunlocked : ((Lockout.check later.clocks.service (Phone.normalize "+15551234567")).perform
      db).1 = .ok () := by decide +kernel
  obtain ⟨pair, hlogin, haccepted⟩ := registered_admitted (by decide) haccess hrefresh hregister
    (by decide) hspelling hunlocked (by decide) (by decide) (by decide)
  refine ⟨pair, hlogin, fun t => haccepted "bEARER".toList 1 2 _ t (by decide) ?_⟩
  have hname : Http.Headers.sameName "Authorization" "authorization" = true := by decide
  simp [Http.Headers.first?, hname]

end Turnstile

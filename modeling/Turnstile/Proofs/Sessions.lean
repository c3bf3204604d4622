import Mathlib.Data.List.Nodup
import Turnstile.Proofs.Admission

/-! Refresh tokens over whole runs. A run is told as the history of its sessions: who registered,
which token was issued to whom and when, which token was revoked. The digest kept for a user is at
every point that of the token which this history leaves live. -/
namespace Turnstile

namespace Session

open Token.Refresh (digest)

/-- A refresh token with the user it was issued to and the time. -/
structure Issue where
  user : Uuid
  token : String
  time : Instant
  deriving DecidableEq, Repr

/-- What is kept of an issued token, by its lifetime. -/
def Issue.grant (lifetime : Duration) (i : Issue) : RefreshGrant :=
  ⟨digest i.token, i.time.after lifetime⟩

inductive Entry where
  | registered (user : Uuid)
  | issued (i : Issue)
  | revoked (token : String)
  deriving DecidableEq, Repr

namespace Entry

def issue? : Entry → Option Issue
  | issued i => some i
  | _ => none

/-- The entry ends a session: its user begins another one, as a new account or with a new token, or
its token is revoked. Tokens are known by their digests only. -/
def Ends (i : Issue) : Entry → Prop
  | registered user => user = i.user
  | issued j => j.user = i.user
  | revoked token => digest token = digest i.token

/-- What a user holds after the entry. -/
def next (user : Uuid) (e : Entry) (held : Option Issue) : Option Issue :=
  match e with
  | registered u => if user = u then none else held
  | issued i => if user = i.user then some i else held
  | revoked token => held.filter fun i => digest i.token ≠ digest token

end Entry

/-- The session was begun in the history, and nothing since has ended it. -/
def Live (h : List Entry) (i : Issue) : Prop :=
  ∃ earlier later, h = earlier ++ .issued i :: later ∧ ∀ e ∈ later, ¬ e.Ends i

/-- The live session of a user, as the history is gone through. -/
def held? (h : List Entry) (user : Uuid) : Option Issue :=
  h.foldl (fun held e => e.next user held) none

def issues (h : List Entry) : List Issue := h.filterMap Entry.issue?

/-- No two issued tokens share a digest. -/
def Distinct (h : List Entry) : Prop := ((issues h).map fun i => digest i.token).Nodup

/-- Whom a token was issued to. -/
def issuedTo? (h : List Entry) (token : String) : Option Uuid :=
  ((issues h).find? fun i => digest i.token = digest token).map (·.user)

variable {h : List Entry} {i j : Issue}

theorem held?_concat (h : List Entry) (e : Entry) (user : Uuid) :
    held? (h ++ [e]) user = e.next user (held? h user) := by
  simp [held?, List.foldl_append]

theorem live_concat {e : Entry} : Live (h ++ [e]) i ↔ e = .issued i ∨ Live h i ∧ ¬ e.Ends i := by
  constructor
  · rintro ⟨earlier, later, hh, hends⟩
    rcases List.eq_nil_or_concat later with rfl | ⟨later, f, rfl⟩
    · exact .inl (List.singleton_inj.mp (List.append_inj' hh rfl).2)
    · rw [List.concat_eq_append, ← List.cons_append, ← List.append_assoc] at hh
      obtain ⟨rfl, hf⟩ := List.append_inj' hh rfl
      obtain rfl := List.singleton_inj.mp hf
      refine .inr ⟨⟨earlier, later, rfl, fun f hf => hends f ?_⟩, hends e ?_⟩ <;>
        simp [List.concat_eq_append, *]
  · rintro (rfl | ⟨⟨earlier, later, rfl, hends⟩, he⟩)
    · exact ⟨h, [], rfl, by simp⟩
    · refine ⟨earlier, later ++ [e], by simp, fun f hf => ?_⟩
      rcases List.mem_append.mp hf with hf | hf
      · exact hends f hf
      · rwa [List.mem_singleton.mp hf]

/-- A user holds exactly what is live and was issued to that user. -/
theorem held?_eq_some_iff {user : Uuid} : held? h user = some i ↔ Live h i ∧ i.user = user := by
  induction h using List.reverseRecOn with
  | nil => simp [held?, Live]
  | append_singleton h e ih =>
    rw [held?_concat, live_concat]
    cases e with
    | registered u =>
      simp only [Entry.next, Entry.Ends]
      split
      next hu => simp [hu, eq_comm]
      next hu =>
        rw [ih]
        constructor
        · rintro ⟨hl, rfl⟩
          exact ⟨.inr ⟨hl, Ne.symm hu⟩, rfl⟩
        · rintro ⟨he | ⟨hl, -⟩, rfl⟩
          · cases he
          · exact ⟨hl, rfl⟩
    | issued j =>
      simp only [Entry.next, Entry.Ends, Entry.issued.injEq]
      split
      next hu =>
        rw [Option.some.injEq]
        constructor
        · rintro rfl
          exact ⟨.inl rfl, hu.symm⟩
        · rintro ⟨rfl | ⟨-, hne⟩, hi⟩
          · rfl
          · exact absurd (hu.symm.trans hi.symm) hne
      next hu =>
        rw [ih]
        constructor
        · rintro ⟨hl, rfl⟩
          exact ⟨.inr ⟨hl, Ne.symm hu⟩, rfl⟩
        · rintro ⟨rfl | ⟨hl, -⟩, rfl⟩
          · exact absurd rfl hu
          · exact ⟨hl, rfl⟩
    | revoked token =>
      simp only [Entry.next, Entry.Ends, Option.filter_eq_some_iff, ih, decide_eq_true_eq,
        reduceCtorEq, false_or]
      rw [and_right_comm, ne_comm]

theorem issue_mem {h : List Entry} {i : Issue} : i ∈ issues h ↔ .issued i ∈ h := by
  unfold issues
  rw [List.mem_filterMap]
  constructor
  · rintro ⟨e, he, hi⟩
    cases e <;> cases hi
    exact he
  · exact fun hi => ⟨_, hi, rfl⟩

theorem mem_issues_append (hi : i ∈ issues h) (l : List Entry) : i ∈ issues (h ++ l) :=
  issue_mem.mpr (List.mem_append_left l (issue_mem.mp hi))

theorem Live.mem (hl : Live h i) : i ∈ issues h := by
  obtain ⟨earlier, later, rfl, -⟩ := hl
  exact issue_mem.mpr (by simp)

/-- Each user has at most one live session. -/
theorem Live.eq_of_user (hi : Live h i) (hj : Live h j) (hu : i.user = j.user) : i = j := by
  have hi' := held?_eq_some_iff.mpr ⟨hi, hu⟩
  have hj' := held?_eq_some_iff.mpr ⟨hj, rfl⟩
  exact Option.some.inj (hi'.symm.trans hj')

theorem Distinct.of_append {l : List Entry} (hd : Distinct (h ++ l)) : Distinct h := by
  unfold Distinct issues at *
  rw [List.filterMap_append, List.map_append] at hd
  exact hd.of_append_left

/-- Once the session of an issued token has ended, nothing revives it. -/
theorem Live.of_append {l : List Entry} (hd : Distinct (h ++ l)) (hi : i ∈ issues h)
    (hl : Live (h ++ l) i) : Live h i := by
  induction l using List.reverseRecOn with
  | nil => rwa [List.append_nil] at hl
  | append_singleton l e ih =>
    rw [← List.append_assoc] at hd hl
    rcases live_concat.mp hl with rfl | ⟨hl, -⟩
    · unfold Distinct issues at hd
      rw [List.filterMap_append, List.map_append] at hd
      have hearlier := List.mem_map_of_mem (f := fun i => digest i.token) (mem_issues_append hi l)
      exact (List.disjoint_of_nodup_append hd hearlier (by simp [Entry.issue?])).elim
    · exact ih hd.of_append hl

/-- The digest tells the issues of a history apart. -/
theorem Distinct.eq (hd : Distinct h) (hi : i ∈ issues h) (hj : j ∈ issues h)
    (he : digest i.token = digest j.token) : i = j :=
  List.inj_on_of_nodup_map hd hi hj he

theorem Distinct.issuedTo? (hd : Distinct h) (hi : i ∈ issues h) {token : String}
    (ht : digest i.token = digest token) : issuedTo? h token = some i.user := by
  unfold Session.issuedTo?
  cases hf : (issues h).find? fun i => digest i.token = digest token with
  | none =>
    have := List.find?_eq_none.mp hf i hi
    simp [ht] at this
  | some j =>
    have hj := List.find?_some hf
    have hij := hd.eq (List.mem_of_find?_eq_some hf) hi ((of_decide_eq_true hj).trans ht.symm)
    rw [Option.map_some, hij]

/-- The store holds what the history leaves live. -/
structure Tracks (lifetime : Duration) (h : List Entry) (s : Store) : Prop where
  keyed : s.Keyed
  grants : ∀ user, s.grant? user = (held? h user).map (Issue.grant lifetime)

namespace Tracks

variable {lifetime : Duration} {s s' : Store}

theorem empty : Tracks lifetime [] .empty := by
  refine ⟨Store.keyed_empty, fun user => ?_⟩
  simp [Store.grant?, Store.empty, held?]

/-- Changes that show neither in the keys nor in the grants leave the history as it is. -/
theorem of_views_eq (ht : Tracks lifetime h s) (hk : s'.Keyed = s.Keyed)
    (hg : s'.grant? = s.grant?) : Tracks lifetime h s' := by
  refine ⟨hk ▸ ht.keyed, fun user => ?_⟩
  rw [hg, ht.grants]

theorem grant?_eq_some_iff (ht : Tracks lifetime h s) {user : Uuid} {g : RefreshGrant} :
    s.grant? user = some g ↔ ∃ i, Live h i ∧ i.user = user ∧ i.grant lifetime = g := by
  rw [ht.grants, Option.map_eq_some_iff]
  simp only [held?_eq_some_iff, and_assoc]

theorem register (ht : Tracks lifetime h s) (a : NewAccount) (now : Instant) :
    Tracks lifetime (h ++ [.registered a.id])
      { s with accounts := s.accounts.insert a.id (a.record now) } := by
  refine ⟨ht.keyed.insert a now, fun user => ?_⟩
  rw [s.grant?_insert, held?_concat, ht.grants]
  simp only [Entry.next]
  split <;> rfl

theorem issue (ht : Tracks lifetime h s) (i : Issue) (hmem : i.user ∈ s.accounts) :
    Tracks lifetime (h ++ [.issued i])
      (s.modifyAccount i.user fun r => { r with refresh := some (i.grant lifetime) }) := by
  refine ⟨ht.keyed.write i.user _, fun user => ?_⟩
  rw [s.grant?_write hmem, held?_concat, ht.grants]
  simp only [Entry.next]
  split <;> rfl

/-- A revoked token takes away what its holder has and nothing else, since no one else has it. -/
theorem revoke (ht : Tracks lifetime h s) (hd : Distinct h) {user : Uuid} {g : RefreshGrant}
    {token : String} (hg : s.grant? user = some g) (hdig : g.digest = digest token) :
    Tracks lifetime (h ++ [.revoked token])
      (s.modifyAccount user fun r => { r with refresh := none }) := by
  refine ⟨ht.keyed.write user _, fun v => ?_⟩
  rw [s.grant?_write (Store.mem_of_grant? hg), held?_concat, ht.grants]
  obtain ⟨i, hi, rfl, rfl⟩ := ht.grant?_eq_some_iff.mp hg
  simp only [Entry.next]
  split
  next hv =>
    rw [hv, held?_eq_some_iff.mpr ⟨hi, rfl⟩]
    have hi : digest i.token = digest token := hdig
    simp [Option.filter, hi]
  next hv =>
    cases hheld : held? h v with
    | none => rfl
    | some j =>
      obtain ⟨hj, rfl⟩ := held?_eq_some_iff.mp hheld
      have hne : digest j.token ≠ digest token := by
        intro he
        exact hv (congrArg Issue.user (hd.eq hj.mem hi.mem (he.trans hdig.symm)))
      simp [Option.filter, hne]

end Tracks

end Session

open Session Token.Refresh

/-- The user that a phone belongs to. -/
def Database.phoneOwner? (phone : String) : Database → Option Uuid
  | ready s => (s.accountByPhone? phone).map (·.id)
  | closed => none

/-- What a moment adds to the history. A login begins a session of the user whose phone it names, a
refresh one of the user to whom the presented token was issued. -/
def Moment.entry? (h : List Entry) (m : Moment) : Option Entry :=
  match m.event.operation, m.answer with
  | .register _, .ok (.registered id) => some (.registered id)
  | .login spelling _, .ok (.tokens pair) =>
    (m.before.phoneOwner? (Phone.normalize spelling)).map fun user =>
      .issued ⟨user, pair.refresh, m.event.serviceTime⟩
  | .refresh token, .ok (.tokens pair) =>
    (issuedTo? h token).map fun user => .issued ⟨user, pair.refresh, m.event.serviceTime⟩
  | .logout token, .ok _ => some (.revoked token)
  | _, _ => none

namespace Moment

variable {h : List Entry} {db : Database} {now : Circumstances} {user : Uuid} {pair : TokenPair}

theorem entry?_login {spelling : String} (ho : db.phoneOwner? (Phone.normalize spelling) = some user)
    (password : String) :
    entry? h ⟨db, ⟨now, .login spelling password⟩, .ok (.tokens pair)⟩ =
      some (.issued ⟨user, pair.refresh, now.clocks.service⟩) := by
  simp [Moment.entry?, ho, Event.serviceTime]

theorem entry?_refresh {token : String} (ho : issuedTo? h token = some user) :
    entry? h ⟨db, ⟨now, .refresh token⟩, .ok (.tokens pair)⟩ =
      some (.issued ⟨user, pair.refresh, now.clocks.service⟩) := by
  simp [Moment.entry?, ho, Event.serviceTime]

end Moment

/-- The history of the sessions of a run. -/
def history (ms : List Moment) : List Entry := ms.foldl (fun h m => h ++ (m.entry? h).toList) []

namespace Session.Tracks

variable {c : Settings} {now : Circumstances} {lifetime : Duration} {h : List Entry} {s s' : Store}

/-- How the history goes on over one event of a run. -/
def Step (c : Settings) (lifetime : Duration) (h : List Entry) (s : Store) (e : Event) : Prop :=
  ∃ answer s', e.answer c (.ready s) = (answer, .ready s') ∧
    Tracks lifetime (h ++ (Moment.entry? h ⟨.ready s, e, answer⟩).toList) s'

/-- What fails is no part of the history. -/
theorem refused {e : Event} {err : Error} (ht : Tracks lifetime h s')
    (he : e.answer c (.ready s) = (.error err, .ready s')) : Step c lifetime h s e := by
  refine ⟨_, s', he, ?_⟩
  have hnone : Moment.entry? h ⟨.ready s, e, .error err⟩ = none := by
    obtain ⟨_, o⟩ := e
    cases o <;> rfl
  rwa [hnone, Option.toList_none, List.append_nil]

theorem step_register (ht : Tracks lifetime h s) (r : Registration) :
    Step c lifetime h s ⟨now, .register r⟩ := by
  rcases Event.answer_register_cases c now r s with ⟨e, -, he⟩ | ⟨-, ⟨-, he⟩ | ⟨-, he⟩⟩
  · exact ht.refused he
  · exact ht.refused he
  · exact ⟨_, _, he, ht.register
      (Authentication.Registration.account r now.entropy.id now.entropy.salt) now.clocks.wall⟩

theorem step_login (ht : Tracks lifetime h s) (hl : c.refreshLifetime = .ok lifetime)
    (spelling password : String) : Step c lifetime h s ⟨now, .login spelling password⟩ := by
  have hperform : Event.answer c ⟨now, .login spelling password⟩ (.ready s) = _ :=
    Action.perform_map ..
  obtain ⟨answer, s', ha, ho⟩ := Authentication.login_outcome c now.clocks now.entropy.token
    spelling password s
  rw [ha] at hperform
  have hchecked : Tracks lifetime h (Authentication.checked now.clocks.service spelling s) :=
    ht.of_views_eq rfl rfl
  cases ho with
  | refused | locked => exact ht.refused hperform
  | failed =>
    refine refused ?_ hperform
    exact hchecked.of_views_eq rfl rfl
  | unissued => exact hchecked.refused hperform
  | admitted a pair g hx hi hs =>
    have hphone : s.accountByPhone? (Phone.normalize spelling) = some a :=
      (Option.filter_eq_some_iff.mp hi).1
    have hmem : a.id ∈ (Authentication.checked now.clocks.service spelling s).accounts :=
      ht.keyed.mem_of_accountByPhone? hphone
    obtain ⟨-, rfl⟩ := Authentication.grant_of_session hl hs
    rw [Store.saveRefresh_eq hmem] at hperform
    refine ⟨_, _, hperform, ?_⟩
    have howner : (Database.ready s).phoneOwner? (Phone.normalize spelling) = some a.id := by
      rw [Database.phoneOwner?, hphone, Option.map_some]
    change Tracks lifetime (h ++ (Moment.entry? h ⟨_, _, .ok (.tokens pair)⟩).toList) _
    rw [Moment.entry?_login howner]
    exact hchecked.issue ⟨a.id, pair.refresh, now.clocks.service⟩ hmem

theorem step_refresh (ht : Tracks lifetime h s) (hd : Distinct h)
    (hl : c.refreshLifetime = .ok lifetime) (token : String) :
    Step c lifetime h s ⟨now, .refresh token⟩ := by
  have hperform : Event.answer c ⟨now, .refresh token⟩ (.ready s) = _ := Action.perform_map ..
  by_cases hempty : token = ""
  · subst hempty
    exact ht.refused hperform
  rw [Authentication.perform_refresh_ready hempty] at hperform
  cases ho : (s.refreshOwner? (digest token) now.clocks.service).bind s.account? with
  | none =>
    simp only [ho] at hperform
    exact ht.refused hperform
  | some a =>
    cases hs : Authentication.session c now.clocks now.entropy.token c.grantLifetime a with
    | error e =>
      simp only [ho, hs] at hperform
      exact ht.refused hperform
    | ok p =>
      obtain ⟨user, howner, ha⟩ := Option.bind_eq_some_iff.mp ho
      obtain rfl := ht.keyed.id_of_account? ha
      obtain ⟨g, hg, hdig, -⟩ := ht.keyed.grant?_of_refreshOwner? howner
      obtain ⟨i, hi, hu, rfl⟩ := ht.grant?_eq_some_iff.mp hg
      obtain ⟨-, hnext⟩ := Authentication.grant_of_session hl hs
      have hholds : (s.grant? a.id).any (·.digest = digest token) := by simp [hg, hdig]
      simp only [ho, hs, Store.rotateRefresh_eq, hholds, if_true] at hperform
      have hissued : issuedTo? h token = some a.id := hu ▸ hd.issuedTo? hi.mem hdig
      refine ⟨_, _, hperform, ?_⟩
      change Tracks lifetime (h ++ (Moment.entry? h ⟨_, _, .ok (.tokens p.1)⟩).toList) _
      rw [Moment.entry?_refresh hissued, hnext]
      exact ht.issue ⟨a.id, p.1.refresh, now.clocks.service⟩ (Store.mem_of_grant? hg)

theorem step_logout (ht : Tracks lifetime h s) (hd : Distinct h) (token : String) :
    Step c lifetime h s ⟨now, .logout token⟩ := by
  have hperform : Event.answer c ⟨now, .logout token⟩ (.ready s) = _ := Action.perform_map ..
  by_cases hempty : token = ""
  · subst hempty
    exact ht.refused hperform
  rw [Authentication.perform_logout_ready hempty] at hperform
  rcases s.revokeRefresh_cases (digest token) with ⟨id, g, hg, hdig, hrevoke⟩ | ⟨-, hrevoke⟩
  · rw [hrevoke] at hperform
    exact ⟨_, _, hperform, ht.revoke hd hg hdig⟩
  · rw [hrevoke] at hperform
    exact ht.refused hperform

/-- One event of a run, whatever it is. -/
theorem step (ht : Tracks lifetime h s) (hd : Distinct h) (hl : c.refreshLifetime = .ok lifetime)
    (e : Event) : Step c lifetime h s e := by
  obtain ⟨now, o⟩ := e
  have hkept (hp : ∀ p ∈ o.parts, p ≠ .accounts ∧ p ≠ .tokens)
      (hnone : ∀ answer, Moment.entry? h ⟨.ready s, ⟨now, o⟩, answer⟩ = none) :
      Step c lifetime h s ⟨now, o⟩ := by
    obtain ⟨s', hs'⟩ := Event.exists_ready c ⟨now, o⟩ s
    refine ⟨_, s', Prod.ext rfl hs', ?_⟩
    rw [hnone, Option.toList_none, List.append_nil]
    exact ht.of_views_eq (Event.view_eq hs' fun p hmem => Store.hidden_keyed (hp p hmem).1)
      (Event.view_eq hs' fun p hmem => Store.hidden_grant (hp p hmem).1 (hp p hmem).2)
  cases o with
  | register r => exact ht.step_register r
  | login spelling password => exact ht.step_login hl spelling password
  | refresh token => exact ht.step_refresh hd hl token
  | logout token => exact ht.step_logout hd token
  | _ => exact hkept (by simp [Operation.parts]) fun _ => rfl

variable {token : String}

theorem logout_ok (ht : Tracks lifetime h s) (hne : token ≠ "") {i : Issue} (hi : Live h i)
    (htoken : i.token = token) :
    (Event.answer c ⟨now, .logout token⟩ (.ready s)).1 = .ok .done := by
  have hperform : Event.answer c ⟨now, .logout token⟩ (.ready s) = _ := Action.perform_map ..
  rw [hperform, Authentication.perform_logout_ready hne]
  have hg := ht.grant?_eq_some_iff.mpr ⟨i, hi, rfl, rfl⟩
  rcases s.revokeRefresh_cases (digest token) with ⟨_, _, _, _, hrevoke⟩ | ⟨hnone, -⟩
  · simp [hrevoke, Except.map]
  · exact absurd (congrArg digest htoken) (hnone _ _ hg)

theorem logout_error (ht : Tracks lifetime h s) (hne : token ≠ "")
    (hnone : ∀ i, Live h i → digest i.token ≠ digest token) :
    (Event.answer c ⟨now, .logout token⟩ (.ready s)).1 = .error .invalidRefreshToken := by
  have hperform : Event.answer c ⟨now, .logout token⟩ (.ready s) = _ := Action.perform_map ..
  rw [hperform, Authentication.perform_logout_ready hne]
  rcases s.revokeRefresh_cases (digest token) with ⟨_, g, hg, hdig, -⟩ | ⟨-, hrevoke⟩
  · obtain ⟨i, hi, -, rfl⟩ := ht.grant?_eq_some_iff.mp hg
    exact absurd hdig (hnone i hi)
  · simp [hrevoke, Except.map]

theorem refresh_ok (ht : Tracks lifetime h s) (hne : token ≠ "") (hs : c.secret ≠ "")
    {grant : Duration} (hg : c.grantLifetime = .ok grant) (hl : c.refreshLifetime = .ok lifetime)
    (hr : (now.clocks.service.after lifetime).Representable) {i : Issue} (hi : Live h i)
    (htoken : i.token = token) (hn : now.clocks.service < i.time.after lifetime) :
    ∃ access, (Event.answer c ⟨now, .refresh token⟩ (.ready s)).1 =
      .ok (.tokens ⟨access, ofBytes now.entropy.token⟩) := by
  have hperform : Event.answer c ⟨now, .refresh token⟩ (.ready s) = _ := Action.perform_map ..
  rw [hperform, Authentication.perform_refresh_ready hne]
  have hgrant := ht.grant?_eq_some_iff.mpr ⟨i, hi, rfl, rfl⟩
  obtain ⟨user, howner⟩ := Option.ne_none_iff_exists'.mp
    (Store.refreshOwner?_ne_none hgrant (congrArg digest htoken) hn)
  obtain ⟨g, hheld, hdig, -⟩ := ht.keyed.grant?_of_refreshOwner? howner
  obtain ⟨r, hrecord, -⟩ := Store.grant?_eq_some_iff.mp hheld
  have haccount : s.account? user = some r.account := by simp [Store.account?, hrecord]
  have hsession := Authentication.session_eq hs hg hl hr now.entropy.token r.account
  have hholds : (s.grant? r.account.id).any (·.digest = digest token) := by
    rw [ht.keyed user r hrecord]
    simp [hheld, hdig]
  simp only [howner, Option.bind_some, haccount, hsession, Store.rotateRefresh_eq, hholds, if_true]
  exact ⟨_, rfl⟩

theorem refresh_error (ht : Tracks lifetime h s) (hne : token ≠ "")
    (hnone : ∀ i, Live h i → digest i.token = digest token →
      ¬ now.clocks.service < i.time.after lifetime) :
    (Event.answer c ⟨now, .refresh token⟩ (.ready s)).1 = .error .invalidRefreshToken := by
  have hperform : Event.answer c ⟨now, .refresh token⟩ (.ready s) = _ := Action.perform_map ..
  rw [hperform, Authentication.perform_refresh_ready hne]
  cases howner : s.refreshOwner? (digest token) now.clocks.service with
  | none => rfl
  | some user =>
    obtain ⟨g, hg, hdig, hn⟩ := ht.keyed.grant?_of_refreshOwner? howner
    obtain ⟨i, hi, -, rfl⟩ := ht.grant?_eq_some_iff.mp hg
    exact absurd hn (hnone i hi hdig)

end Session.Tracks

namespace Database

theorem history_concat (ms : List Moment) (m : Moment) :
    history (ms ++ [m]) = history ms ++ (m.entry? (history ms)).toList := by
  simp [history, List.foldl_append]

/-- The store and the history stay in step over every run. -/
theorem tracks_after {c : Settings} {lifetime : Duration} (hl : c.refreshLifetime = .ok lifetime)
    (events : List Event) (hd : Distinct (history ((ready .empty).moments c events))) :
    ∃ s, (ready .empty).after c events = .ready s ∧
      Tracks lifetime (history ((ready .empty).moments c events)) s := by
  refine after_induction (Q := fun events => Distinct (history ((ready .empty).moments c events)))
    (P := fun events s => Tracks lifetime (history ((ready .empty).moments c events)) s) ?_ ?_ ?_ hd
  · intro events e hdistinct
    rw [moments_concat, history_concat] at hdistinct
    exact hdistinct.of_append
  · exact .empty
  · intro events e s s' hdistinct hs ih hstep
    rw [moments_concat, history_concat] at hdistinct ⊢
    obtain ⟨answer, t, hanswer, htracks⟩ := ih.step hdistinct.of_append hl e
    rw [hs, hanswer]
    rw [hanswer] at hstep
    cases hstep
    exact htracks

/-- As a run goes on, its history is only added to. -/
theorem exists_history_append (c : Settings) (db : Database) (events more : List Event) :
    ∃ l, history (db.moments c (events ++ more)) = history (db.moments c events) ++ l := by
  induction more using List.reverseRecOn with
  | nil => exact ⟨[], by simp⟩
  | append_singleton more e ih =>
    obtain ⟨l, hl⟩ := ih
    rw [← List.append_assoc, moments_concat, history_concat, hl, List.append_assoc]
    exact ⟨_, rfl⟩

/-- A token that was replaced or logged out is refused ever after. -/
theorem spent_token_refused {c : Settings} {lifetime : Duration}
    (hl : c.refreshLifetime = .ok lifetime) (events more : List Event)
    (hd : Distinct (history ((ready .empty).moments c (events ++ more)))) {i : Issue}
    (hi : i ∈ issues (history ((ready .empty).moments c events)))
    (hspent : ¬ Live (history ((ready .empty).moments c events)) i) (hne : i.token ≠ "")
    (now : Circumstances) :
    (Event.answer c ⟨now, .refresh i.token⟩ ((ready .empty).after c (events ++ more))).1 =
      .error .invalidRefreshToken := by
  obtain ⟨s, hs, ht⟩ := tracks_after hl (events ++ more) hd
  obtain ⟨l, happend⟩ := exists_history_append c (ready .empty) events more
  rw [happend] at hd ht
  rw [hs]
  refine ht.refresh_error hne fun j hj hdig _ => hspent ?_
  obtain rfl := hd.eq hj.mem (mem_issues_append hi l) hdig
  exact hj.of_append hd hi

theorem phoneOwner?_of_register {c : Settings} {now : Circumstances} {r : Registration}
    {s s' : Store} {id : Uuid}
    (h : Event.answer c ⟨now, .register r⟩ (.ready s) = (.ok (.registered id), .ready s')) :
    (ready s').phoneOwner? (Phone.normalize r.phone) = some id := by
  rcases Event.answer_register_cases c now r s with ⟨e, -, he⟩ | ⟨-, ⟨-, he⟩ | ⟨hfree, he⟩⟩
  · cases h.symm.trans he
  · cases h.symm.trans he
  · cases h.symm.trans he
    have hfree : s.phoneTaken (Phone.normalize r.phone) = false :=
      (Bool.or_eq_false_iff.mp hfree).1
    exact congrArg (Option.map Account.id) <| Store.accountByPhone?_of_insert
      (a := Authentication.Registration.account r now.entropy.id now.entropy.salt) hfree rfl

/-- A registration and a first login begin the session of a new account. -/
theorem history_first_login {c : Settings} {access lifetime : Duration} (hsecret : c.secret ≠ "")
    (haccess : c.accessLifetime = .ok access) (hrefresh : c.refreshLifetime = .ok lifetime)
    {events : List Event} {s s' : Store} (hs : (ready .empty).after c events = .ready s)
    {first : Circumstances} {r : Registration} {id : Uuid}
    (hregister :
      Event.answer c ⟨first, .register r⟩ (.ready s) = (.ok (.registered id), .ready s'))
    (hsalt : first.entropy.salt.length = Password.saltLength) (later : Circumstances)
    {spelling : String} (hspelling : Phone.normalize spelling = Phone.normalize r.phone)
    (hunlocked :
      Lockout.lockOn? later.clocks.service s'.ledger[Phone.normalize spelling]? = none)
    (hexpiry : (later.clocks.service.after lifetime).Representable) :
    history ((ready .empty).moments c
        (events ++ [⟨first, .register r⟩, ⟨later, .login spelling r.password⟩])) =
      history ((ready .empty).moments c events) ++ [.registered id,
        .issued ⟨id, ofBytes later.entropy.token, later.clocks.service⟩] := by
  obtain ⟨-, access, hmoments⟩ := run_first_login hsecret haccess hrefresh hs hregister hsalt
    later hspelling hunlocked hexpiry
  have howner : (ready s').phoneOwner? (Phone.normalize spelling) = some id :=
    hspelling ▸ phoneOwner?_of_register hregister
  rw [hmoments, List.append_cons, history_concat, history_concat, Moment.entry?_login howner,
    List.append_assoc]
  rfl

/-- The refresh of a live token that has not lapsed begins the next session of its user. -/
theorem history_refresh {c : Settings} {grant lifetime : Duration} (hsecret : c.secret ≠ "")
    (hgrant : c.grantLifetime = .ok grant) (hrefresh : c.refreshLifetime = .ok lifetime)
    (events : List Event) (hd : Distinct (history ((ready .empty).moments c events))) {i : Issue}
    (hi : Live (history ((ready .empty).moments c events)) i) (hne : i.token ≠ "")
    (now : Circumstances) (hr : (now.clocks.service.after lifetime).Representable)
    (hn : now.clocks.service < i.time.after lifetime) :
    history ((ready .empty).moments c (events ++ [⟨now, .refresh i.token⟩])) =
      history ((ready .empty).moments c events) ++
        [.issued ⟨i.user, ofBytes now.entropy.token, now.clocks.service⟩] := by
  obtain ⟨s, hs, ht⟩ := tracks_after hrefresh events hd
  obtain ⟨access, hanswer⟩ := ht.refresh_ok hne hsecret hgrant hrefresh hr hi rfl hn
  rw [moments_concat, history_concat, hs, hanswer,
    Moment.entry?_refresh (hd.issuedTo? hi.mem rfl), Option.toList_some]

/-- The logout of a live token, lapsed or not, ends its session. -/
theorem history_logout {c : Settings} {lifetime : Duration}
    (hrefresh : c.refreshLifetime = .ok lifetime) (events : List Event)
    (hd : Distinct (history ((ready .empty).moments c events))) {i : Issue}
    (hi : Live (history ((ready .empty).moments c events)) i) (hne : i.token ≠ "")
    (now : Circumstances) :
    history ((ready .empty).moments c (events ++ [⟨now, .logout i.token⟩])) =
      history ((ready .empty).moments c events) ++ [.revoked i.token] := by
  obtain ⟨s, hs, ht⟩ := tracks_after hrefresh events hd
  rw [moments_concat, history_concat, hs, ht.logout_ok hne hi rfl]
  rfl

/-- Over every run, whatever the clocks do, a refresh token is accepted for a refresh exactly while
it is live and its lifetime lasts, and for a logout exactly while it is live; else it is invalid. A
user has at most one live token, and a live token one user. -/
theorem refresh_tokens_follow_history (c : Settings) (hsecret : c.secret ≠ "")
    {grant lifetime : Duration} (hgrant : c.grantLifetime = .ok grant)
    (hrefresh : c.refreshLifetime = .ok lifetime) (events : List Event)
    (hdistinct : Distinct (history ((ready .empty).moments c events))) :
    let db := (ready .empty).after c events
    let h := history ((ready .empty).moments c events)
    (∀ (now : Circumstances) (token : String), token ≠ "" →
      (∀ i ∈ issues h, digest i.token = digest token → i.token = token) →
      ((now.clocks.service.after lifetime).Representable →
        let answer := (Event.answer c ⟨now, .refresh token⟩ db).1
        let usable := ∃ i, Live h i ∧ i.token = token ∧ now.clocks.service < i.time.after lifetime
        ((∃ pair, answer = .ok (.tokens pair)) ↔ usable) ∧
          (answer = .error .invalidRefreshToken ↔ ¬ usable)) ∧
      let answer := (Event.answer c ⟨now, .logout token⟩ db).1
      let live := ∃ i, Live h i ∧ i.token = token
      (answer = .ok .done ↔ live) ∧ (answer = .error .invalidRefreshToken ↔ ¬ live)) ∧
    ∀ i j, Live h i → Live h j → (i.user = j.user ↔ i.token = j.token) := by
  obtain ⟨s, hs, ht⟩ := tracks_after hrefresh events hdistinct
  dsimp only
  rw [hs]
  generalize history ((ready .empty).moments c events) = h at ht hdistinct
  refine ⟨fun now token hne hcollision => ⟨fun hr => ?_, ?_⟩,
    fun i j hi hj => ⟨fun hu => ?_, fun he => ?_⟩⟩
  · by_cases husable : ∃ i, Live h i ∧ i.token = token ∧ now.clocks.service < i.time.after lifetime
    · obtain ⟨i, hi, htoken, hn⟩ := id husable
      obtain ⟨access, hanswer⟩ := ht.refresh_ok hne hsecret hgrant hrefresh hr hi htoken hn
      simp [hanswer, husable]
    · have hanswer : (Event.answer c ⟨now, .refresh token⟩ (.ready s)).1 =
          .error .invalidRefreshToken := ht.refresh_error hne fun i hi hdig hn =>
        husable ⟨i, hi, hcollision i hi.mem hdig, hn⟩
      simp [hanswer, husable]
  · by_cases hlive : ∃ i, Live h i ∧ i.token = token
    · obtain ⟨i, hi, htoken⟩ := id hlive
      have hanswer : (Event.answer c ⟨now, .logout token⟩ (.ready s)).1 = .ok .done :=
        ht.logout_ok hne hi htoken
      simp [hanswer, hlive]
    · have hanswer : (Event.answer c ⟨now, .logout token⟩ (.ready s)).1 =
          .error .invalidRefreshToken := ht.logout_error hne fun i hi hdig =>
        hlive ⟨i, hi, hcollision i hi.mem hdig⟩
      simp [hanswer, hlive]
  · rw [hi.eq_of_user hj hu]
  · rw [hdistinct.eq hi.mem hj.mem (congrArg digest he)]

/-- A user registers, logs in and, with the clock put back by half an hour, refreshes. The token of
the login is spent then. That of the refresh is good for seven days and for a logout after them, and
once it is logged out it is no good any more. -/
theorem rotated_token_spent :
    let c := Settings.ofSecret "secret"
    let now (seconds : Int) (random : Bytes) : Circumstances :=
      ⟨⟨.ofSeconds seconds 0, .ofSeconds seconds 0⟩, ⟨⟨1⟩, List.replicate 16 7, random⟩⟩
    let first := ofBytes (List.replicate 32 1)
    let second := ofBytes (List.replicate 32 2)
    let r : Registration := ⟨"+15551234567", none, "Passw0rd!", none, none⟩
    let events : List Event :=
      [⟨now 0 [], .register r⟩,
        ⟨now 3600 (List.replicate 32 1), .login "+1 555 123 4567" r.password⟩,
        ⟨now 1800 (List.replicate 32 2), .refresh first⟩]
    let db := (ready .empty).after c events
    let out := (ready .empty).after c (events ++ [⟨now 1800 [], .logout second⟩])
    (∃ pair, (Event.answer c ⟨now 606599 [], .refresh second⟩ db).1 = .ok (.tokens pair)) ∧
      (Event.answer c ⟨now 606600 [], .refresh second⟩ db).1 = .error .invalidRefreshToken ∧
      (Event.answer c ⟨now 606600 [], .logout second⟩ db).1 = .ok .done ∧
      (Event.answer c ⟨now 1800 [], .refresh first⟩ db).1 = .error .invalidRefreshToken ∧
      (Event.answer c ⟨now 1800 [], .logout first⟩ db).1 = .error .invalidRefreshToken ∧
      (Event.answer c ⟨now 1800 [], .refresh second⟩ out).1 = .error .invalidRefreshToken := by
  intro c now first second r events db out
  have haccess : c.accessLifetime = .ok (.ofMinutes 60) := by decide
  have hgrant : c.grantLifetime = .ok (.ofMinutes 15) := by decide
  have hrefresh : c.refreshLifetime = .ok (.ofMinutes 10080) := by decide
  have hne : first ≠ "" ∧ second ≠ "" := by decide +kernel
  have hdigests : digest first ≠ digest second := by decide +kernel
  -- The history, event by event.
  let i : Issue := ⟨⟨1⟩, first, .ofSeconds 3600 0⟩
  let j : Issue := ⟨⟨1⟩, second, .ofSeconds 1800 0⟩
  let h : List Entry := [.registered ⟨1⟩, .issued i, .issued j]
  have hregister : Event.answer c ⟨now 0 [], .register r⟩ (.ready .empty) =
      (.ok (.registered ⟨1⟩), .ready { Store.empty with
        accounts := Store.empty.accounts.insert ⟨1⟩ (r.record (now 0 [])) }) :=
    Event.answer_register (by decide) rfl
  have hstart : (ready .empty).after c [] = .ready .empty := rfl
  have hspelling : Phone.normalize "+1 555 123 4567" = Phone.normalize r.phone := by decide
  have hbegun : history ((ready .empty).moments c (events.take 2)) =
      [.registered ⟨1⟩, .issued i] :=
    history_first_login (by decide) haccess hrefresh hstart hregister (by decide)
      (now 3600 (List.replicate 32 1)) hspelling rfl (by decide)
  have hrotated := history_refresh (i := i) (by decide) hgrant hrefresh (events.take 2)
    (by rw [hbegun]; exact List.nodup_singleton _)
    (by rw [hbegun]; exact live_concat (h := [.registered ⟨1⟩]).mpr (.inl rfl)) hne.1
    (now 1800 (List.replicate 32 2)) (by decide) (by decide)
  rw [hbegun] at hrotated
  have hhistory : history ((ready .empty).moments c events) = h := hrotated
  have hdistinct : Distinct h :=
    List.nodup_cons.mpr ⟨fun he => hdigests (List.mem_singleton.mp he), List.nodup_singleton _⟩
  have hlive : Live h j := live_concat (h := [.registered ⟨1⟩, .issued i]).mpr (.inl rfl)
  have hout := history_logout (i := j) hrefresh events (hhistory ▸ hdistinct)
    (hhistory ▸ hlive) hne.2 (now 1800 [])
  rw [hhistory] at hout
  -- Which tokens it leaves live, and that digests tell them apart.
  have honly {k : Issue} (hk : Live h k) : k = j := by
    rcases live_concat (h := [.registered ⟨1⟩, .issued i]).mp hk with he | ⟨hk', hends⟩
    · exact (Entry.issued.inj he).symm
    · exact absurd (List.mem_singleton.mp hk'.mem) fun he => hends (he ▸ rfl)
  have hspent : ¬ ∃ k, Live h k ∧ k.token = first := by
    rintro ⟨k, hk, htoken⟩
    obtain rfl := honly hk
    exact hdigests (congrArg digest htoken.symm)
  have htokens {l : Issue} (hl : l ∈ issues h) :
      ∀ k ∈ issues h, digest k.token = digest l.token → k.token = l.token :=
    fun k hk he => congrArg Issue.token (hdistinct.eq hk hl he)
  have hi : i ∈ issues h := List.mem_cons_self
  obtain ⟨hrun, -⟩ := refresh_tokens_follow_history c (by decide) hgrant hrefresh events
    (hhistory ▸ hdistinct)
  rw [hhistory] at hrun
  obtain ⟨hfirst, hfirstOut⟩ := hrun (now 1800 []) first hne.1 (htokens (l := i) hi)
  have hsecond (seconds : Int) := hrun (now seconds []) second hne.2 (htokens (l := j) hlive.mem)
  refine ⟨((hsecond 606599).1 (by decide)).1.mpr ⟨j, hlive, rfl, by decide⟩,
    ((hsecond 606600).1 (by decide)).2.mpr ?_, (hsecond 606600).2.1.mpr ⟨j, hlive, rfl⟩,
    (hfirst (by decide)).2.mpr fun ⟨k, hk, htoken, _⟩ => hspent ⟨k, hk, htoken⟩,
    hfirstOut.2.mpr hspent, ?_⟩
  · rintro ⟨k, hk, -, hlapsed⟩
    rw [honly hk] at hlapsed
    exact absurd hlapsed (by decide)
  · have hissues : issues (h ++ [.revoked second]) = issues h := by
      simp [issues, Entry.issue?]
    obtain ⟨hrun, -⟩ := refresh_tokens_follow_history c (by decide) hgrant hrefresh
      (events ++ [⟨now 1800 [], .logout second⟩]) (by
        rw [hout, Distinct, hissues]
        exact hdistinct)
    rw [hout, hissues] at hrun
    refine ((hrun (now 1800 []) second hne.2 (htokens (l := j) hlive.mem)).1 (by decide)).2.mpr ?_
    rintro ⟨k, hk, htoken, -⟩
    rcases live_concat.mp hk with he | ⟨-, hends⟩
    · cases he
    · exact hends (congrArg digest htoken.symm)

end Database

end Turnstile

import Turnstile.Proofs.Admission

/-! What a store keeps to itself. Password hashes and refresh tokens are read by the requests that
authenticate and by no others: whoever sends anything else is answered the same from two stores that
differ in them only, however many requests there are. -/
namespace Turnstile

/-- A record without its password hash, its refresh token and the end of that token. -/
def AccountRecord.redact (r : AccountRecord) : AccountRecord :=
  { r with account := { r.account with passwordHash := "" }, refresh := none }

namespace Store

/-- A store with all of its records redacted. -/
def redact (s : Store) : Store :=
  { s with accounts := s.accounts.map fun _ => AccountRecord.redact }

/-- The stores differ in secrets only. -/
def Alike (s t : Store) : Prop := s.redact = t.redact

variable {s t : Store}

theorem redact_get (s : Store) (id : Uuid) :
    s.redact.accounts[id]? = s.accounts[id]?.map AccountRecord.redact :=
  Std.ExtTreeMap.getElem?_map

@[simp] theorem mem_redact {id : Uuid} : id ∈ s.redact.accounts ↔ id ∈ s.accounts :=
  Std.ExtTreeMap.mem_map

theorem records_redact (s : Store) : s.redact.records = s.records.map AccountRecord.redact := by
  simp only [records, redact, Std.ExtTreeMap.toList_map, List.map_map, Function.comp_def]

/-- Redacting the accounts once more is no change, whatever stands beside them. -/
theorem redact_beside (s : Store) (ledger : Std.ExtTreeMap String FailedLogins)
    (roles : Std.ExtTreeMap Uuid Role)
    (contexts : Std.ExtTreeMap (Uuid × String) Bool ContextKey.cmp) :
    redact ⟨s.redact.accounts, ledger, roles, contexts⟩ =
      redact ⟨s.accounts, ledger, roles, contexts⟩ := by
  have haccounts : s.redact.redact.accounts = s.redact.accounts := by
    ext id : 1
    rw [redact_get, redact_get, Option.map_map]
    rfl
  exact congrArg (Store.mk · ledger roles contexts) haccounts

@[simp] theorem redact_redact (s : Store) : s.redact.redact = s.redact :=
  s.redact_beside s.ledger s.roles s.contexts

/-- What is read off a store and off its redaction alike is no secret. -/
theorem Alike.read {β : Type} (h : s.Alike t) (f : Store → β) (hf : ∀ s, f s.redact = f s) :
    f s = f t := by
  rw [← hf s, ← hf t, h]

/-! Reading. -/

@[simp] theorem rights?_redact (s : Store) (id : Uuid) : s.redact.rights? id = s.rights? id := by
  rw [rights?, redact_get, Option.map_map]
  rfl

/-- An account's hash is a secret, its profile is not. -/
theorem profile_redact (s : Store) (id : Uuid) :
    (s.redact.account? id).map Account.profile = (s.account? id).map Account.profile := by
  simp only [account?, redact_get, Option.map_map]
  rfl

@[simp] theorem phoneTakenByOther_redact (s : Store) (phone : String) (id : Uuid) :
    s.redact.phoneTakenByOther phone id = s.phoneTakenByOther phone id := by
  rw [phoneTakenByOther, records_redact, List.any_map]
  rfl

/-! Writing. -/

/-- A change of a record that makes no use of its secrets comes to the same, but for secrets, from the
store and from its redaction. -/
theorem redact_modifyAccount (s : Store) (id : Uuid) {f : AccountRecord → AccountRecord}
    (hf : ∀ r, (f r.redact).redact = (f r).redact) :
    (s.redact.modifyAccount id f).redact = (s.modifyAccount id f).redact := by
  have haccounts : (s.redact.modifyAccount id f).redact.accounts =
      (s.modifyAccount id f).redact.accounts := by
    ext user : 1
    simp only [redact_get, modifyAccount_get]
    split
    next => simp only [Option.map_map, Function.comp_def, hf]
    next => rw [Option.map_map]; rfl
  exact congrArg (fun accounts => ({ s with accounts := accounts } : Store)) haccounts

/-- A call that answers the same from a store and from its redaction, and leaves the same behind but
for secrets. -/
def Discreet {α : Type} (f : Store → α × Store) : Prop :=
  ∀ s, (f s.redact).1 = (f s).1 ∧ (f s.redact).2.redact = (f s).2.redact

theorem discreet_updateCredentials (id : Uuid) (phone hash : String) (now : Instant) :
    Discreet (updateCredentials id phone hash now) := by
  intro s
  simp only [updateCredentials, phoneTakenByOther_redact, mem_redact]
  split
  · exact ⟨rfl, s.redact_redact⟩
  · split
    · exact ⟨rfl, s.redact_modifyAccount id fun _ => rfl⟩
    · exact ⟨rfl, s.redact_redact⟩

theorem discreet_replaceRights (id : Uuid) (r : Rights) : Discreet (replaceRights · id r) := by
  intro s
  simp only [replaceRights, mem_redact]
  split
  · exact ⟨rfl, s.redact_modifyAccount id fun _ => rfl⟩
  · exact ⟨rfl, s.redact_redact⟩

theorem discreet_grantRights (id : Uuid) (r : Rights) : Discreet (grantRights id r) := by
  intro s
  simp only [grantRights, rights?_redact]
  split
  · exact discreet_replaceRights id r s
  · exact ⟨rfl, s.redact_redact⟩

theorem discreet_updateRights (id : Uuid) (change : Rights → Except Error Rights) :
    Discreet (updateRights id change) := by
  intro s
  simp only [updateRights, rights?_redact]
  split
  next => exact ⟨rfl, s.redact_redact⟩
  next =>
    split
    next => exact ⟨rfl, s.redact_redact⟩
    next => exact ⟨rfl, s.redact_modifyAccount id fun _ => rfl⟩

theorem discreet_insertRole (r : Role) : Discreet (insertRole r) := by
  intro s
  have htaken : s.redact.roleNameTaken r = s.roleNameTaken r := rfl
  simp only [insertRole, htaken]
  split
  · exact ⟨rfl, s.redact_redact⟩
  · exact ⟨rfl, s.redact_beside _ _ _⟩

theorem discreet_updateRole (r : Role) : Discreet (updateRole r) := by
  intro s
  have htaken : s.redact.roleNameTaken r = s.roleNameTaken r := rfl
  have hroles : s.redact.roles = s.roles := rfl
  simp only [updateRole, htaken, hroles]
  split
  · split
    · exact ⟨rfl, s.redact_redact⟩
    · exact ⟨rfl, s.redact_beside _ _ _⟩
  · exact ⟨rfl, s.redact_redact⟩

theorem discreet_deleteRole (id : Uuid) : Discreet (deleteRole id) :=
  fun s => ⟨rfl, s.redact_beside _ _ _⟩

theorem discreet_addMerchant (user : Uuid) (merchant : String) :
    Discreet (addMerchant user merchant) := by
  intro s
  simp only [addMerchant, mem_redact]
  split
  · exact ⟨rfl, s.redact_beside _ _ _⟩
  · exact ⟨rfl, s.redact_redact⟩

theorem discreet_setGlobal (user : Uuid) (isGlobal : Bool) :
    Discreet (setGlobal user isGlobal) := by
  intro s
  simp only [setGlobal, mem_redact]
  split
  · cases isGlobal
    · exact ⟨rfl, s.redact_beside _ _ _⟩
    · exact ⟨rfl, s.redact_beside _ _ _⟩
  · exact ⟨rfl, s.redact_redact⟩

theorem discreet_deleteMerchant (user : Uuid) (merchant : String) :
    Discreet (deleteMerchant user merchant) := fun s => ⟨rfl, s.redact_beside _ _ _⟩

theorem discreet_deleteContexts (user : Uuid) : Discreet (deleteContexts user) :=
  fun s => ⟨rfl, s.redact_beside _ _ _⟩

end Store

namespace Action

variable {α β : Type}

/-- From stores that differ in secrets only, the action answers the same, and the stores it leaves
differ in secrets only. -/
def Discreet (a : Action α) : Prop :=
  ∀ s t : Store, s.Alike t → ∃ answer s' t', a.perform (.ready s) = (answer, .ready s') ∧
    a.perform (.ready t) = (answer, .ready t') ∧ s'.Alike t'

namespace Discreet

variable {a : Action α}

theorem pure (x : α) : Discreet (Pure.pure x : Action α) :=
  fun s t h => ⟨.ok x, s, t, rfl, rfl, h⟩

theorem throw (e : Error) : Discreet (MonadExcept.throw e : Action α) :=
  fun s t h => ⟨.error e, s, t, rfl, rfl, h⟩

theorem liftM (x : Except Error α) : Discreet (MonadLiftT.monadLift x : Action α) :=
  fun s t h => ⟨x, s, t, perform_liftM x _, perform_liftM x _, h⟩

theorem found (e : Error) (o : Option α) : Discreet (Action.found e o) := by
  cases o with
  | none => exact throw e
  | some x => exact pure x

theorem require (holds : Bool) (e : Error) : Discreet (Action.require holds e) := by
  cases holds with
  | false => exact throw e
  | true => exact pure ()

theorem call {f : Store → Except Error α × Store} (hf : Store.Discreet f) :
    Discreet (Action.call f) := by
  intro s t h
  refine ⟨(f s).1, (f s).2, (f t).2, rfl, ?_, h.read (f · |>.2.redact) fun u => (hf u).2⟩
  have hanswer : (f s).1 = (f t).1 := h.read (f · |>.1) fun u => (hf u).1
  rw [hanswer]
  rfl

theorem change {f : Store → α × Store} (hf : Store.Discreet f) : Discreet (Action.change f) :=
  call fun s => ⟨congrArg Except.ok (hf s).1, (hf s).2⟩

theorem query {f : Store → α} (hf : ∀ s, f s.redact = f s) : Discreet (Action.query f) :=
  call fun s => ⟨congrArg Except.ok (hf s), s.redact_redact⟩

theorem bind {f : α → Action β} (ha : Discreet a) (hf : ∀ x, Discreet (f x)) :
    Discreet (a >>= f) := by
  intro s t h
  obtain ⟨answer, s', t', hs, ht, h'⟩ := ha s t h
  rw [perform_bind, perform_bind, hs, ht]
  cases answer with
  | error e => exact ⟨.error e, s', t', rfl, rfl, h'⟩
  | ok x => exact hf x s' t' h'

theorem map (f : α → β) (ha : Discreet a) : Discreet (f <$> a) := by
  intro s t h
  obtain ⟨answer, s', t', hs, ht, h'⟩ := ha s t h
  rw [perform_map, perform_map, hs, ht]
  exact ⟨answer.map f, s', t', rfl, rfl, h'⟩

theorem ite {p : Prop} [Decidable p] {b : Action α} (ha : Discreet a) (hb : Discreet b) :
    Discreet (if p then a else b) := by split <;> assumption

/-- An action after a refusal that may come before it. -/
theorem guarded {p : Prop} [Decidable p] (e : Error) (ha : Discreet a) :
    Discreet (if p then (MonadExcept.throw e : Action Unit) >>= fun _ => a else a) :=
  .ite (.bind (.throw e) fun _ => ha) ha

end Discreet

end Action

open Turnstile.Action

/-- The account is read with its hash, but only the profile is used. -/
theorem Profiles.discreet_get (id : Uuid) : (Profiles.get id).Discreet := by
  intro s t h
  have hperform (u : Store) : (Profiles.get id).perform (.ready u) =
      (((u.account? id).map Account.profile).elim (.error (.notFound "user")) .ok, .ready u) := by
    rw [Profiles.get, perform_bind, perform_query_ready]
    exact perform_found ..
  have hprofile := h.read (fun u => (u.account? id).map Account.profile) (·.profile_redact id)
  exact ⟨_, s, t, hperform s, by rw [hperform t, hprofile], h⟩

/-- A new hash is written without a look at the old one. -/
theorem Profiles.discreet_edit (wall : Instant) (salt : Bytes) (id : Uuid)
    (phone password : String) :
    (Profiles.edit wall salt id phone password).Discreet := by
  refine .bind (.liftM _) fun _ => .bind (.liftM _) fun _ => ?_
  exact .bind (.call (Store.discreet_updateCredentials id _ _ wall)) fun known =>
    .bind (.require known _) fun _ => Profiles.discreet_get id

theorem Grants.discreet_grant (user : Uuid) (q : Rights.Request) :
    (Grants.grant user q).Discreet := by
  refine .bind (.liftM _) fun r => ?_
  refine .bind (.change (Store.discreet_grantRights user r)) fun granted => .ite (.pure r) ?_
  refine .bind (.query fun s => s.rights?_redact user) fun held => ?_
  cases held
  · exact .throw _
  · exact .throw _

theorem Scoping.discreet_get (user : Uuid) : (Scoping.get user).Discreet :=
  .bind (.query fun _ => rfl) fun _ => .pure _

theorem Scoping.discreet_add (user : Uuid) (merchant : Option String) (isGlobal : Bool) :
    (Scoping.add user merchant isGlobal).Discreet := by
  apply Discreet.ite
  · exact .bind (.call (Store.discreet_setGlobal user true)) fun _ => discreet_get user
  · exact .bind (.require _ _) fun _ =>
      .bind (.call (Store.discreet_addMerchant user _)) fun _ => discreet_get user

namespace Operation

/-- The operations that check a password or a refresh token, or store a first password. -/
def authenticates : Operation → Bool
  | .register _ | .login _ _ | .refresh _ | .logout _ => true
  | _ => false

theorem discreet {o : Operation} (ho : o.authenticates = false) (c : Settings)
    (now : Circumstances) : (o.action c now).Discreet := by
  cases o with
  | register | login | refresh | logout => cases ho
  | getUser user => exact .map _ (Profiles.discreet_get user)
  | editUser user phone password => exact .map _ (Profiles.discreet_edit _ _ user phone password)
  | getUserRights user =>
    exact .map _ (.bind (.query fun s => s.rights?_redact user) fun _ => .found _ _)
  | grant user q => exact .map _ (Grants.discreet_grant user q)
  | editRights user q =>
    exact .map _ (.bind (.liftM _) fun r =>
      .bind (.change (Store.discreet_replaceRights user r)) fun _ =>
      .bind (.require _ _) fun _ => .pure r)
  | revoke user q =>
    exact .map _ (.bind (.liftM _) fun _ => .call (Store.discreet_updateRights user _))
  | assign user role merge =>
    exact .map _ (.bind (.query fun _ => rfl) fun _ => .bind (.found _ _) fun _ =>
      .call (Store.discreet_updateRights user _))
  | addRole q =>
    exact .map _ (.bind (.liftM _) fun r => .bind (.call (Store.discreet_insertRole r)) fun _ =>
      .pure r)
  | editRole id q =>
    exact .map _ (.bind (.liftM _) fun r => .bind (.call (Store.discreet_updateRole r)) fun _ =>
      .bind (.require _ _) fun _ => .pure r)
  | deleteRole id =>
    exact .map _ (.bind (.change (Store.discreet_deleteRole id)) fun _ => .require _ _)
  | getRoles => exact .map _ (.query fun _ => rfl)
  | getRoleRights => exact .map _ (.bind (.query fun _ => rfl) fun _ => .found _ _)
  | addContext user merchant isGlobal =>
    exact .map _ (Scoping.discreet_add user merchant isGlobal)
  | editContext user isGlobal =>
    exact .map _ (.bind (.call (Store.discreet_setGlobal user isGlobal)) fun _ =>
      Scoping.discreet_get user)
  | getContexts user => exact .map _ (Scoping.discreet_get user)
  | deleteContext user merchant =>
    exact .map _ (.guarded _ (.bind (.change (Store.discreet_deleteMerchant user _)) fun _ =>
      .require _ _))
  | deleteContexts user => exact .map _ (.change (Store.discreet_deleteContexts user))

end Operation

namespace Http

/-- The request is posted to register, log in, refresh or log out. -/
def Request.Authenticates (r : Request) : Prop :=
  r.method = .post ∧
    ∃ action ∈ ["register", "login", "refresh", "logout"],
      segments? r.target = some ["v1", "auth", action]

instance (r : Request) : Decidable r.Authenticates := inferInstanceAs (Decidable (_ ∧ _))

def Call.authenticates : Call → Bool
  | .register | .login | .refresh | .logout => true
  | _ => false

theorem Call.authenticates_of_decode {call : Call} {slots : List (String × String)} {r : Request}
    {o : Operation} (h : call.decode slots r = .ok o) : o.authenticates = call.authenticates := by
  cases call with
  | listRoles => cases h; rfl
  | register | refresh | logout | getUser | getUserRights | getContexts | deleteContexts
  | deleteContext | addRole | deleteRole | getRoleRights =>
    obtain ⟨_, -, h⟩ := ok_of_bind h
    cases h
    rfl
  | login =>
    obtain ⟨_, -, h⟩ := ok_of_bind h
    cases h
    rfl
  | editUser | grantRights | editRights | revokeRights | addContext | editContext | editRole =>
    obtain ⟨_, -, h⟩ := ok_of_bind h
    obtain ⟨_, -, h⟩ := ok_of_bind h
    cases h
    rfl
  | assignRole =>
    obtain ⟨_, -, h⟩ := ok_of_bind h
    obtain ⟨_, -, h⟩ := ok_of_bind h
    obtain ⟨_, -, h⟩ := ok_of_bind h
    cases h
    rfl

/-- Calls that authenticate are posted to the four resources of their own. -/
theorem Call.resource_of_authenticates {call : Call} (h : call.authenticates = true) :
    ∀ resource ∈ resources, ∀ e ∈ resource.methods, e.2 = .call call →
      e.1 = .post ∧ ∃ action ∈ ["register", "login", "refresh", "logout"],
        resource.path = authPath action := by
  cases call with
  | register | login | refresh | logout => decide
  | _ => cases h

theorem segments_of_capture?_authPath {action : String} {segments : List String}
    {captures : List (String × String)} (h : capture? (authPath action) segments = some captures) :
    segments = ["v1", "auth", action] := by
  match segments with
  | [] => cases h
  | [a] => simp [authPath, capture?] at h
  | [a, b] => simp [authPath, capture?] at h
  | [a, b, d] => simp_all [authPath, capture?]
  | a :: b :: d :: e :: rest => simp [authPath, capture?] at h

theorem Request.authenticates_of_place {c : Settings} {now : Instant} {r : Request}
    {who : Option Principal} {call : Call} {captures : List (String × String)}
    (hplace : place c now r = .call who call captures) (h : call.authenticates = true) :
    r.Authenticates := by
  unfold place at hplace
  split at hplace
  next => cases hplace
  next m hm =>
    dsimp only at hplace
    split at hplace
    next => cases hplace
    next =>
      split at hplace
      next => cases hplace
      next => cases hplace
      next => cases hplace
      next he =>
        cases hplace
        obtain ⟨segments, hsegments, hmem, hcaptures⟩ := mem_of_route? hm
        obtain ⟨e, hfind, hcall⟩ := Option.map_eq_some_iff.mp he
        obtain ⟨hpost, action, haction, hpath⟩ :=
          Call.resource_of_authenticates h _ hmem e (List.mem_of_find?_eq_some hfind) hcall
        rw [hpath] at hcaptures
        rw [segments_of_capture?_authPath hcaptures] at hsegments
        refine ⟨?_, action, haction, hsegments⟩
        have hmethod := List.find?_some hfind
        rw [hpost] at hmethod
        have hmethod : Method.post = r.method := by simpa using hmethod
        exact hmethod.symm

theorem answerCall_alike (c : Settings) (now : Circumstances) {call : Call}
    (hcall : call.authenticates = false) (captures : List (String × String)) (r : Request)
    {s t : Store} (h : s.Alike t) :
    ∃ response s' t', answerCall c now call captures r (.ready s) = (response, .ready s') ∧
      answerCall c now call captures r (.ready t) = (response, .ready t') ∧ s'.Alike t' := by
  unfold answerCall
  cases ho : call.operation captures r with
  | error refusal => exact ⟨refusal.response, s, t, rfl, rfl, h⟩
  | ok o =>
    obtain ⟨slots, -, hdecode⟩ := ok_of_bind ho
    have hother : o.authenticates = false := (Call.authenticates_of_decode hdecode).trans hcall
    obtain ⟨answer, s', t', hs, ht, h'⟩ := Operation.discreet hother c now s t h
    have hs : Event.answer c ⟨now, o⟩ (.ready s) = (answer, .ready s') := hs
    have ht : Event.answer c ⟨now, o⟩ (.ready t) = (answer, .ready t') := ht
    simp only [hs, ht]
    cases answer with
    | ok reply => exact ⟨_, s', t', rfl, rfl, h'⟩
    | error e => exact ⟨_, s', t', rfl, rfl, h'⟩

/-- The step: one request that does not authenticate. -/
theorem handle_alike (c : Settings) (arrival : Arrival) {r : Request} (hr : ¬ r.Authenticates)
    {s t : Store} (h : s.Alike t) :
    ∃ response s' t', handle c arrival r (.ready s) = (response, .ready s') ∧
      handle c arrival r (.ready t) = (response, .ready t') ∧ s'.Alike t' := by
  unfold handle
  dsimp only
  cases hplace : place c arrival.circumstances.clocks.wall r with
  | call who call captures =>
    have hcall : call.authenticates = false := by
      cases ha : call.authenticates with
      | false => rfl
      | true => exact absurd (Request.authenticates_of_place hplace ha) hr
    obtain ⟨response, s', t', hs, ht, h'⟩ :=
      answerCall_alike c arrival.circumstances hcall captures r h
    exact ⟨_, s', t', by rw [answerPlaced, hs], by rw [answerPlaced, ht], h'⟩
  | unauthenticated e allow => cases allow <;> exact ⟨_, s, t, rfl, rfl, h⟩
  | nowhere | unsupported | health | description => exact ⟨_, s, t, rfl, rfl, h⟩

/-- The responses to requests that come in one after another, and the database after them. -/
def serve (c : Settings) : List (Arrival × Request) → Database → List Response × Database
  | [], db => ([], db)
  | (arrival, r) :: rest, db =>
    let (response, db) := handle c arrival r db
    let (responses, db) := serve c rest db
    (response :: responses, db)

/-- From two stores that differ in password hashes and refresh tokens only, every request that does not
authenticate gets the same response, and so do any number of them in a row; the stores they leave
still differ in nothing else. -/
theorem secrets_unseen (c : Settings) {s t : Store} (h : s.Alike t) :
    (∀ (arrival : Arrival) (r : Request), ¬ r.Authenticates →
      ∃ response s' t', handle c arrival r (.ready s) = (response, .ready s') ∧
        handle c arrival r (.ready t) = (response, .ready t') ∧ s'.Alike t') ∧
    ∀ traffic : List (Arrival × Request), (∀ x ∈ traffic, ¬ x.2.Authenticates) →
      ∃ responses s' t', serve c traffic (.ready s) = (responses, .ready s') ∧
        serve c traffic (.ready t) = (responses, .ready t') ∧ s'.Alike t' := by
  refine ⟨fun arrival r hr => handle_alike c arrival hr h, fun traffic hothers => ?_⟩
  induction traffic generalizing s t with
  | nil => exact ⟨[], s, t, rfl, rfl, h⟩
  | cons x rest ih =>
    obtain ⟨arrival, r⟩ := x
    obtain ⟨hr, hrest⟩ := List.forall_mem_cons.mp hothers
    obtain ⟨response, s₁, t₁, hs₁, ht₁, h₁⟩ := handle_alike c arrival hr h
    obtain ⟨responses, s', t', hs', ht', h'⟩ := ih h₁ hrest
    refine ⟨response :: responses, s', t', ?_, ?_, h'⟩
    · simp only [serve, hs₁, hs']
    · simp only [serve, ht₁, ht']

/-- An account's password is changed and its profile read, by a caller with a token, in a store that
holds one hash and a refresh token and in one that holds another hash and none. -/
theorem password_change_alike :
    let c := Settings.ofSecret "secret"
    let arrival : Arrival := ⟨⟨⟨.ofSeconds 9 0, .ofSeconds 9 0⟩, ⟨⟨5⟩, [], []⟩⟩, "1"⟩
    let storeOf (hash : String) (refresh : Option RefreshGrant) : Store :=
      let a : NewAccount := ⟨⟨1⟩, "+15551234567", none, hash, none, none⟩
      let r : AccountRecord := { a.record (.ofSeconds 0 0) with refresh := refresh }
      { Store.empty with accounts := Store.empty.accounts.insert a.id r }
    let s := storeOf "one" (some ⟨[7], .ofSeconds 60 0⟩)
    let t := storeOf "two" none
    let token := Token.signedText "secret"
      (.issued (.ofSeconds 0 0) ⟨1⟩ "+15551234567" [] [] (.ofMinutes 60))
    let headers : Headers := [("authorization", String.ofList ("Bearer".toList ++ ' ' ::
      (List.replicate 0 ' ' ++ token.toList ++ List.replicate 0 ' '))),
      ("content-type", "application/json")]
    let target := "/v1/users/00000000-0000-0000-0000-000000000001"
    let traffic : List (Arrival × Request) :=
      [(arrival, ⟨.put, target, headers,
        "\x7b\"phone\":\"+1 555 1234567\",\"password\":\"Passw0rd!\"\x7d"⟩),
      (arrival, ⟨.get, target, headers, ""⟩)]
    s ≠ t ∧ authenticate c.secret (.ofSeconds 9 0) headers = .ok ⟨⟨1⟩, "+15551234567", [], []⟩ ∧
      ∃ responses s' t', serve c traffic (.ready s) = (responses, .ready s') ∧
      serve c traffic (.ready t) = (responses, .ready t') := by
  intro c arrival storeOf s t token headers target traffic
  have hne : s ≠ t := by
    intro h
    have hgrant : s.grant? ⟨1⟩ = t.grant? ⟨1⟩ := by rw [h]
    revert hgrant
    decide +kernel
  have halike : s.Alike t := by
    have haccounts : s.redact.accounts = t.redact.accounts := by
      ext id : 1
      simp only [s, t, storeOf, Store.redact_get, Std.ExtTreeMap.getElem?_insert]
      split
      next => rfl
      next => rfl
    exact congrArg (fun accounts => ({ Store.empty with accounts := accounts } : Store)) haccounts
  have hauthenticate : authenticate c.secret (.ofSeconds 9 0) headers =
      .ok ⟨⟨1⟩, "+15551234567", [], []⟩ := by
    have hwall : (Instant.ofSeconds 0 0).Representable := by decide
    have hscheme : "Bearer".toList.map Char.toLower = "bearer".toList := by decide
    have hlifetime : 0 ≤ (Duration.ofMinutes 60).nanos ∧
        (Duration.ofMinutes 60).nanos ≤ Duration.maxMillis * 1000000 := by decide
    have hfirst : headers.first? "authorization" = some (String.ofList ("Bearer".toList ++ ' ' ::
        (List.replicate 0 ' ' ++ token.toList ++ List.replicate 0 ' '))) := by
      have hname : Headers.sameName "authorization" "authorization" = true := by decide
      -- The token is kept out of sight, or it would be computed.
      have hline (line : String) : Headers.first?
          [("authorization", line), ("content-type", "application/json")] "authorization" =
            some line := by
        simp [Headers.first?, hname]
      exact hline _
    have h := authenticate_issued "secret" hwall (by decide) hlifetime hscheme hfirst
      (.ofSeconds 9 0)
    rw [if_neg (by decide)] at h
    exact h
  have hothers : ∀ x ∈ traffic, ¬ x.2.Authenticates := by decide +kernel
  obtain ⟨responses, s', t', hs, ht, -⟩ := (secrets_unseen c halike).2 _ hothers
  exact ⟨hne, hauthenticate, responses, s', t', hs, ht⟩

end Http

end Turnstile

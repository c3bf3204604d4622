import Turnstile.Proofs.Scopes

/-! What success changes. Every operation that succeeds has one target: an account, its refresh token,
its rights or its contexts, or a role. All else in the store is afterwards as it was before. -/
namespace Turnstile

namespace Store

variable {s s' : Store} {user : Uuid}

/-- The user has a new record, made from the one before, and nothing else in the store differs. -/
def Rewrites (s : Store) (user : Uuid) (f : AccountRecord → AccountRecord) (s' : Store) : Prop :=
  ∃ r, s.accounts[user]? = some r ∧ s' = { s with accounts := s.accounts.insert user (f r) }

/-- The user has a record of the kind, and no other user has. -/
def Sole (s : Store) (p : AccountRecord → Prop) (user : Uuid) : Prop :=
  ∀ other : Uuid, (∃ r, s.accounts[other]? = some r ∧ p r) ↔ other = user

/-- The one user of the kind gets the refresh token that is answered, and nothing else differs. -/
def Begins (s : Store) (p : AccountRecord → Prop) (reply : Reply) (s' : Store) : Prop :=
  ∃ owner pair g, reply = .tokens pair ∧ g.digest = Token.Refresh.digest pair.refresh ∧
    s.Sole p owner ∧ s.Rewrites owner (fun r => { r with refresh := some g }) s'

theorem rewrites_modifyAccount (h : user ∈ s.accounts) (f : AccountRecord → AccountRecord) :
    s.Rewrites user f (s.modifyAccount user f) := by
  obtain ⟨r, hr⟩ := exists_record h
  refine ⟨r, hr, ?_⟩
  have haccounts : s.accounts.modify user f = s.accounts.insert user (f r) := by
    ext id : 1
    rw [Std.ExtTreeMap.getElem?_modify, Std.ExtTreeMap.getElem?_insert, hr, Option.map_some]
  rw [modifyAccount, haccounts]

namespace Unique

variable {issued : List Bytes}

/-- A kind of record that two can only share if they clash has one user. -/
theorem sole (h : Unique issued s) {p : AccountRecord → Prop} {r : AccountRecord}
    (hr : s.accounts[user]? = some r) (hp : p r)
    (hclash : ∀ r', p r' → r.keys.Clash r'.keys) : s.Sole p user := by
  intro other
  constructor
  · rintro ⟨r', hr', hp'⟩
    exact (h.apart (keys?_eq_some_iff.mpr ⟨r, hr, rfl⟩) (keys?_eq_some_iff.mpr ⟨r', hr', rfl⟩)
      (hclash r' hp')).symm
  · rintro rfl
    exact ⟨r, hr, hp⟩

theorem sole_phone (h : Unique issued s) {phone : String} {a : Account}
    (hfound : s.accountByPhone? phone = some a) : s.Sole (·.account.phone = phone) a.id := by
  obtain ⟨r, hr, rfl⟩ := Option.map_eq_some_iff.mp hfound
  have hphone : r.account.phone = phone := by simpa using List.find?_some hr
  obtain ⟨id, hid⟩ := mem_records.mp (List.mem_of_find?_eq_some hr)
  rw [h.keyed id r hid]
  exact h.sole hid hphone fun r' hr' => .inl (hphone.trans hr'.symm)

theorem sole_digest (h : Unique issued s) {g : RefreshGrant} {digest : Bytes}
    (hg : s.grant? user = some g) (hd : g.digest = digest) :
    s.Sole (AccountRecord.holds · digest = true) user := by
  obtain ⟨r, hr, hrefresh⟩ := grant?_eq_some_iff.mp hg
  have hholds : AccountRecord.holds r digest = true := by simp [AccountRecord.holds, hrefresh, hd]
  exact h.sole hr hholds fun r' hr' => clash_of_holds hholds hr'

end Unique

end Store

/-- The change that an operation which succeeds may make, by what it answers. -/
def Operation.ChangesOnly (now : Circumstances) (s : Store) : Operation → Reply → Store → Prop
  | .register r, reply, s' =>
    let id := now.entropy.id
    let record := r.record now
    reply = .registered id ∧ id ∉ s.accounts ∧
      s' = { s with accounts := s.accounts.insert id record } ∧
      record.rights = .empty ∧ record.refresh = none ∧ s'.contextRows id = []
  | .login spelling _, reply, s' =>
    ∃ ledger : Std.ExtTreeMap String FailedLogins,
      (∀ phone, phone ≠ Phone.normalize spelling → ledger[phone]? = s.ledger[phone]?) ∧
      Store.Begins { s with ledger := ledger } (·.account.phone = Phone.normalize spelling) reply s'
  | .refresh token, reply, s' =>
    s.Begins (Store.AccountRecord.holds · (Token.Refresh.digest token) = true) reply s'
  | .logout token, reply, s' =>
    reply = .done ∧ ∃ owner,
      s.Sole (Store.AccountRecord.holds · (Token.Refresh.digest token) = true) owner ∧
      s.Rewrites owner (fun r => { r with refresh := none }) s'
  | .editUser user phone password, _, s' =>
    s.Rewrites user (fun r => { r with account :=
      { r.account with
        phone := Phone.normalize phone
        passwordHash := Password.hash now.entropy.salt password
        updatedAt := now.clocks.wall } }) s'
  | .grant user _, reply, s' | .editRights user _, reply, s' | .revoke user _, reply, s'
  | .assign user _ _, reply, s' =>
    ∃ rights, reply = .rights rights ∧ s.Rewrites user (fun r => { r with rights := rights }) s' ∧
      ∀ (settings : Settings) (later : Circumstances),
        Event.answer settings ⟨later, .getUserRights user⟩ (.ready s') =
          (.ok (.rights rights), .ready s')
  | .addRole _, reply, s' =>
    ∃ r, reply = .role r ∧ r.id = now.entropy.id ∧ r.id ∉ s.roles ∧
      s' = { s with roles := s.roles.insert r.id r }
  | .editRole id _, reply, s' =>
    ∃ r, reply = .role r ∧ r.id = id ∧ id ∈ s.roles ∧
      s' = { s with roles := s.roles.insert id r }
  | .deleteRole id, reply, s' =>
    reply = .done ∧ id ∈ s.roles ∧ s' = { s with roles := s.roles.erase id }
  | .addContext user _ _, _, s' | .editContext user _, _, s' | .deleteContext user _, _, s'
  | .deleteContexts user, _, s' =>
    ∃ contexts : Std.ExtTreeMap (Uuid × String) Bool ContextKey.cmp,
      s' = { s with contexts := contexts } ∧
      ∀ (other : Uuid) (m : String), other ≠ user → contexts[(other, m)]? = s.contexts[(other, m)]?
  | .getUser _, _, s' | .getUserRights _, _, s' | .getRoles, _, s' | .getRoleRights _, _, s'
  | .getContexts _, _, s' => s' = s

/-- The identifier that the event would give away is free. -/
def Event.Fresh (e : Event) (s : Store) : Prop :=
  match e.operation with
  | .register _ => e.circumstances.entropy.id ∉ s.accounts
  | .addRole _ => e.circumstances.entropy.id ∉ s.roles
  | _ => True

namespace Effect

open Store

variable {c : Settings} {now : Circumstances} {s s' : Store} {o : Operation} {reply : Reply}
  {issued : List Bytes}

/-- The new rights of a user are what is answered, and what a look at them finds. -/
theorem changesOnly_rights {user : Uuid} (h : user ∈ s.accounts) (rights : Rights) :
    let s' := s.modifyAccount user fun r => { r with rights := rights }
    ∃ r, Reply.rights rights = .rights r ∧ s.Rewrites user (fun a => { a with rights := r }) s' ∧
      ∀ (settings : Settings) (later : Circumstances),
        Event.answer settings ⟨later, .getUserRights user⟩ (.ready s') =
          (.ok (.rights r), .ready s') := by
  intro s'
  refine ⟨rights, rfl, rewrites_modifyAccount h _, fun settings later => ?_⟩
  have hanswer : Event.answer settings ⟨later, .getUserRights user⟩ (.ready s') = _ :=
    Action.perform_map ..
  obtain ⟨r, hr⟩ := exists_record h
  have hrights : s'.rights? user = some rights := by
    rw [rights?, modifyAccount_get, if_pos rfl, hr]
    rfl
  rw [hanswer, Profiles.rights, Action.perform_bind, Action.perform_query_ready]
  dsimp only
  rw [Action.perform_found, hrights]
  rfl

theorem changesOnly_contexts {user : Uuid} {k : ContextCommand} (h : Effect c now s o reply s')
    (ho : o.contextCommand? = some (user, k)) (hs : s' = { s with contexts := s'.contexts }) :
    ∃ contexts : Std.ExtTreeMap (Uuid × String) Bool ContextKey.cmp,
      s' = { s with contexts := contexts } ∧
      ∀ (other : Uuid) (m : String), other ≠ user →
        contexts[(other, m)]? = s.contexts[(other, m)]? := by
  refine ⟨s'.contexts, hs, fun other m hne => h.contexts_get (fun k' hk' => ?_) m⟩
  rw [ho] at hk'
  cases hk'
  exact hne rfl

theorem changesOnly (h : Effect c now s o reply s') (hunique : Unique issued s)
    (hfresh : Event.Fresh ⟨now, o⟩ s)
    (hrows : ∀ user, user ∉ s.accounts → s.contextRows user = []) :
    o.ChangesOnly now s reply s' := by
  have hstore := h
  cases h with
  | register r => exact ⟨rfl, hfresh, rfl, rfl, rfl, hrows _ hfresh⟩
  | login spelling _ a pair g _ hfound hmem hs =>
    have hmem : a.id ∈ (Authentication.checked now.clocks.service spelling s).accounts := hmem
    refine ⟨(Authentication.checked now.clocks.service spelling s).ledger, fun phone hne => ?_, a.id,
      pair, g, rfl, Authentication.digest_of_session hs, hunique.sole_phone hfound,
      rewrites_modifyAccount hmem _⟩
    rw [Authentication.checked, alterLedger_get, if_neg hne]
  | refresh token a held g pair hheld hdigest hs =>
    exact ⟨a.id, pair, g, rfl, Authentication.digest_of_session hs,
      hunique.sole_digest hheld hdigest, rewrites_modifyAccount (mem_of_grant? hheld) _⟩
  | logout token owner held hheld hdigest =>
    exact ⟨rfl, owner, hunique.sole_digest hheld hdigest,
      rewrites_modifyAccount (mem_of_grant? hheld) _⟩
  | editUser _ _ _ _ hmem => exact rewrites_modifyAccount hmem _
  | grant _ _ r _ _ hown => exact changesOnly_rights (mem_of_rights? hown) r
  | editRights _ _ r _ hmem => exact changesOnly_rights hmem r
  | revoke _ _ _ _ left hown => exact changesOnly_rights (mem_of_rights? hown) left
  | assign _ _ _ _ _ hown => exact changesOnly_rights (mem_of_rights? hown) _
  | addRole q r hq =>
    have hid := (RoleRequest.of_validate hq).1
    exact ⟨r, rfl, hid, hid ▸ hfresh, rfl⟩
  | editRole id q r hq hmem =>
    have hid := (RoleRequest.of_validate hq).1
    exact ⟨r, rfl, hid, hmem, by rw [hid]⟩
  | deleteRole id hmem => exact ⟨rfl, hmem, rfl⟩
  | addGlobal | addMerchant | beGlobal | ceaseGlobal | deleteContext | deleteContexts =>
    exact hstore.changesOnly_contexts rfl rfl
  | read _ _ ho => cases o <;> first | rfl | cases ho

end Effect

namespace Database

open Store

/-- After every run that hands out no token twice, each operation that succeeds, with an identifier
that is free if it gives one away, changes its target as it answers and nothing else. -/
theorem successes_change_only_target (c : Settings) (events : List Event)
    (hdistinct : (digests ((ready .empty).moments c events)).Nodup) :
    ∃ s, (ready .empty).after c events = .ready s ∧
      ∀ (settings : Settings) (e : Event) (reply : Reply) (db : Database),
        e.answer settings (.ready s) = (.ok reply, db) → e.Fresh s →
        ∃ s', db = .ready s' ∧ e.operation.ChangesOnly e.circumstances s reply s' := by
  obtain ⟨s, hs, hunique⟩ := unique_after c events hdistinct
  obtain ⟨t, ht, hfits⟩ := scopes_after c events
  obtain rfl : t = s := Database.ready.inj (ht.symm.trans hs)
  have hrows (user : Uuid) (hmem : user ∉ t.accounts) : t.contextRows user = [] :=
    (hfits user).contextRows_eq_nil hmem
  refine ⟨t, hs, fun settings e reply db he hfresh => ?_⟩
  obtain ⟨answer, s', hanswer, ho⟩ := Outcome.reached settings e.circumstances t e.operation
  obtain ⟨rfl, rfl⟩ := Prod.mk.inj (hanswer.symm.trans he)
  cases ho with
  | done h => exact ⟨s', rfl, h.changesOnly hunique hfresh hrows⟩

/-- A role is deleted that a user was assigned: the user's rights stay. -/
theorem rights_outlive_role :
    let c := Settings.ofSecret "secret"
    let now (id : Uuid) : Circumstances := ⟨⟨.ofSeconds 0 0, .ofSeconds 0 0⟩, ⟨id, [], []⟩⟩
    let events : List Event :=
      [⟨now ⟨1⟩, .register ⟨"+15551234567", none, "Passw0rd!", none, none⟩⟩,
        ⟨now ⟨7⟩, .addRole ⟨"OPERATOR", "Operator", "", .ofList [("ORDERS", ["READ"])]⟩⟩,
        ⟨now ⟨1⟩, .assign ⟨1⟩ ⟨7⟩ false⟩]
    let e : Event := ⟨now ⟨1⟩, .deleteRole ⟨7⟩⟩
    digests ((ready .empty).moments c events) = [] ∧
      ∃ s s', (ready .empty).after c events = .ready s ∧
        e.answer c (.ready s) = (.ok .done, .ready s') ∧ s'.roles = s.roles.erase ⟨7⟩ ∧
        s'.rights? ⟨1⟩ = some (Rights.empty.put .orders (.ofList [.read])) := by
  intro c now events e
  have hdigests : digests ((ready .empty).moments c events) = [] := by decide +kernel
  have hanswer : (e.answer c ((ready .empty).after c events)).1 = .ok .done := by decide +kernel
  have hrights : ((ready .empty).after c events).store?.bind (·.rights? ⟨1⟩) =
      some (Rights.empty.put .orders (.ofList [.read])) := by decide +kernel
  obtain ⟨s, hs, hchanges⟩ := successes_change_only_target c events (by rw [hdigests]; exact .nil)
  rw [hs] at hanswer hrights
  obtain ⟨s', hs', -, -, rfl⟩ :=
    hchanges c e .done (e.answer c (.ready s)).2 (Prod.ext hanswer rfl) trivial
  exact ⟨hdigests, s, _, hs, Prod.ext hanswer hs', rfl, hrights⟩

end Database

end Turnstile

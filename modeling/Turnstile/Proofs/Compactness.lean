import Turnstile.Proofs.Effects

/-! Stored rights are compact. Every writer of rights leaves no section without a permission, whatever
sections it was asked about, so a user who holds no permission holds no section and can be granted
rights again. -/
namespace Turnstile

theorem PermissionSet.isEmpty_union_eq_false {s t : PermissionSet} (h : t.isEmpty = false) :
    (s.union t).isEmpty = false := by
  rw [← Bool.not_eq_true, isEmpty_iff] at h ⊢
  intro hnone
  apply h
  intro p
  have hp := hnone p
  rw [contains_union, Bool.or_eq_false_iff] at hp
  exact hp.2

namespace Rights

variable {r t : Rights}

theorem compact_empty : empty.Compact := by
  intro s ps h
  rw [get?_empty] at h
  cases h

theorem Compact.put (h : r.Compact) (s : Section) {ps : PermissionSet} (hps : ps.isEmpty = false) :
    (r.put s ps).Compact := by
  intro u qs hu
  rw [get?_put] at hu
  split at hu
  next => rwa [← Option.some.inj hu]
  next => exact h u qs hu

theorem Compact.remove (h : r.Compact) (s : Section) : (r.remove s).Compact := by
  intro u qs hu
  rw [get?_remove] at hu
  split at hu
  next => cases hu
  next => exact h u qs hu

theorem Compact.insert (h : r.Compact) (s : Section) {ps : PermissionSet}
    (hps : ps.isEmpty = false) : (r.insert s ps).Compact :=
  h.put s (PermissionSet.isEmpty_union_eq_false hps)

theorem Compact.merge (h : r.Compact) (ht : t.Compact) : (r.merge t).Compact := by
  have hfold (l : List (Section × PermissionSet)) (hl : ∀ e ∈ l, e.2.isEmpty = false) :
      (l.foldl (fun r e => r.insert e.1 e.2) r).Compact := by
    induction l using List.reverseRecOn with
    | nil => exact h
    | append_singleton l e ih =>
      rw [List.foldl_append]
      exact (ih fun e he => hl e (by simp [he])).insert e.1 (hl e (by simp))
  exact hfold t.entries fun e he => ht e.1 e.2 (mem_entries.mp he)

/-- A section is dropped rather than left without a permission. -/
theorem Compact.revokeEntry (h : r.Compact) {e : Section × PermissionSet}
    (he : r.revokeEntry e = .ok t) : t.Compact := by
  unfold Rights.revokeEntry at he
  split at he
  next => cases he
  next held _ =>
    split at he
    next =>
      cases he
      exact h.remove e.1
    next hleft =>
      cases he
      simp only [Bool.or_eq_true, not_or, Bool.not_eq_true] at hleft
      exact h.put e.1 hleft.2

theorem Compact.revoke (h : r.Compact) {revoked : Rights} (ht : r.revoke revoked = .ok t) :
    t.Compact := by
  unfold Rights.revoke at ht
  generalize revoked.entries = l at ht
  induction l generalizing r with
  | nil =>
    cases ht
    exact h
  | cons e l ih =>
    rw [List.foldlM_cons] at ht
    obtain ⟨u, hu, ht⟩ := ok_of_bind ht
    exact ih (h.revokeEntry hu) ht

/-- What a request for rights is accepted as is compact and not empty, whatever it named. -/
theorem of_parseCompact {q : Request} (h : parseCompact q = .ok r) :
    r.Compact ∧ r.isEmpty = false := by
  obtain ⟨t, -, h⟩ := ok_of_bind h
  split at h
  next => cases h
  next hleft =>
    cases h
    exact ⟨t.compact_compact, Bool.not_eq_true _ ▸ hleft⟩

/-- Compact rights without a permission are no rights at all. -/
theorem Compact.isEmpty_iff (h : r.Compact) :
    r.isEmpty = true ↔ ∀ s p, r.contains s p = false := by
  rw [Rights.isEmpty_iff]
  constructor
  · rintro rfl s p
    rw [contains, get?_empty, Option.any_none]
  · intro hnone
    apply ext_get?
    intro s
    rw [get?_empty]
    cases hs : r.get? s with
    | none => rfl
    | some ps =>
      have hps : ps.isEmpty = true := by
        rw [PermissionSet.isEmpty_iff]
        intro p
        simpa [contains, hs] using hnone s p
      exact absurd hps (by rw [h s ps hs]; exact Bool.false_ne_true)

end Rights

namespace Store

/-- All rights in the store are compact, and those of roles are not empty. -/
structure CompactRights (s : Store) : Prop where
  accounts : ∀ (id : Uuid) r, s.accounts[id]? = some r → r.rights.Compact
  roles : ∀ (id : Uuid) r, s.roles[id]? = some r → r.rights.Compact ∧ r.rights.isEmpty = false

namespace CompactRights

variable {s s' : Store}

theorem empty : CompactRights .empty where
  accounts := by simp [Store.empty]
  roles := by simp [Store.empty]

theorem rights (h : s.CompactRights) {user : Uuid} {own : Rights} (hown : s.rights? user = some own) :
    own.Compact := by
  obtain ⟨r, hr, rfl⟩ := Option.map_eq_some_iff.mp hown
  exact h.accounts user r hr

theorem modifyAccount (h : s.CompactRights) (id : Uuid) {f : AccountRecord → AccountRecord}
    (hf : ∀ r, r.rights.Compact → (f r).rights.Compact) : (s.modifyAccount id f).CompactRights where
  accounts := by
    intro user r hr
    rw [modifyAccount_get] at hr
    split at hr
    next =>
      obtain ⟨r', hr', rfl⟩ := Option.map_eq_some_iff.mp hr
      exact hf r' (h.accounts id r' hr')
    next => exact h.accounts user r hr
  roles := h.roles

theorem insertAccount (h : s.CompactRights) (id : Uuid) {r : AccountRecord}
    (hr : r.rights.Compact) : CompactRights { s with accounts := s.accounts.insert id r } where
  accounts := by
    intro user r' hr'
    rw [Std.ExtTreeMap.getElem?_insert] at hr'
    split at hr'
    next => rwa [← Option.some.inj hr']
    next => exact h.accounts user r' hr'
  roles := h.roles

theorem insertRole (h : s.CompactRights) {r : Role} {q : Rights.Request}
    (hr : Rights.parseCompact q = .ok r.rights) :
    CompactRights { s with roles := s.roles.insert r.id r } where
  accounts := h.accounts
  roles := by
    intro id r' hr'
    rw [Std.ExtTreeMap.getElem?_insert] at hr'
    split at hr'
    next =>
      rw [← Option.some.inj hr']
      exact Rights.of_parseCompact hr
    next => exact h.roles id r' hr'

theorem eraseRole (h : s.CompactRights) (id : Uuid) :
    CompactRights { s with roles := s.roles.erase id } where
  accounts := h.accounts
  roles := by
    intro id' r hr
    rw [Std.ExtTreeMap.getElem?_erase] at hr
    split at hr
    next => cases hr
    next => exact h.roles id' r hr

variable {c : Settings} {now : Circumstances} {o : Operation}

theorem effect (h : s.CompactRights) {reply : Reply} (he : Effect c now s o reply s') :
    s'.CompactRights := by
  cases he with
  | register => exact h.insertAccount _ Rights.compact_empty
  | login spelling =>
    have hchecked : CompactRights (Authentication.checked now.clocks.service spelling s) :=
      ⟨h.accounts, h.roles⟩
    exact hchecked.modifyAccount _ fun _ hr => hr
  | refresh | logout | editUser => exact h.modifyAccount _ fun _ hr => hr
  | grant _ _ _ _ hq | editRights _ _ _ hq =>
    exact h.modifyAccount _ fun _ _ => (Rights.of_parseCompact hq).1
  | revoke _ _ _ _ _ hown hleft => exact h.modifyAccount _ fun _ _ => (h.rights hown).revoke hleft
  | assign _ role merge _ r hown hrole =>
    refine h.modifyAccount _ fun _ _ => ?_
    have hr := (h.roles role r hrole).1
    cases merge with
    | false => exact hr
    | true => exact (h.rights hown).merge hr
  | addRole _ _ hq | editRole _ _ _ hq => exact h.insertRole (RoleRequest.of_validate hq).2
  | deleteRole id => exact h.eraseRole id
  | addGlobal | addMerchant | beGlobal | ceaseGlobal | deleteContext | deleteContexts =>
    exact ⟨h.accounts, h.roles⟩
  | read => exact h

/-- No event, successful or refused, leaves a section without a permission. -/
theorem event (h : s.CompactRights) {e : Event} (he : (e.answer c (.ready s)).2 = .ready s') :
    s'.CompactRights := by
  obtain ⟨answer, t, hanswer, ho⟩ := Outcome.reached c e.circumstances s e.operation
  have ht : Database.ready t = .ready s' := (congrArg Prod.snd hanswer).symm.trans he
  cases ht
  cases ho with
  | done he => exact h.effect he
  | refused => exact h
  | unissued | failed => exact ⟨h.accounts, h.roles⟩

end CompactRights

end Store

namespace Database

open Store

theorem compactRights_after (c : Settings) (events : List Event) :
    ∃ s, (ready .empty).after c events = .ready s ∧ s.CompactRights :=
  after_induction (Q := fun _ => True) (P := fun _ => CompactRights) (fun _ => trivial) .empty
    (fun _ _ h he => h.event he) trivial

/-- After every run, no section that a user or a role holds is without a permission, and every role
holds some. So a request for rights that is well formed is granted to exactly the users who exist and
hold no permission, whatever they were given and lost before. -/
theorem rights_stay_compact (c : Settings) (events : List Event) :
    ∃ s, (ready .empty).after c events = .ready s ∧
      (∀ (id : Uuid) r, s.accounts[id]? = some r → r.rights.Compact) ∧
      (∀ (id : Uuid) r, s.roles[id]? = some r → r.rights.Compact ∧ r.rights.isEmpty = false) ∧
      ∀ (now : Circumstances) (user : Uuid) (q : Rights.Request) (rights : Rights),
        Rights.parseCompact q = .ok rights →
        let answer := (Event.answer c ⟨now, .grant user q⟩ (.ready s)).1
        (answer = .ok (.rights rights) ↔
          ∃ r, s.accounts[user]? = some r ∧ ∀ s p, r.rights.contains s p = false) ∧
        (answer = .error .alreadyHasRights ↔
          ∃ r, s.accounts[user]? = some r ∧ ∃ s p, r.rights.contains s p = true) ∧
        (answer = .error (.notFound "user") ↔ s.accounts[user]? = none) := by
  obtain ⟨s, hs, h⟩ := compactRights_after c events
  refine ⟨s, hs, h.accounts, h.roles, fun now user q rights hq => ?_⟩
  have hperform : Event.answer c ⟨now, .grant user q⟩ (.ready s) = _ := Action.perform_map ..
  dsimp only
  rw [hperform, Grants.perform_grant_ready, hq]
  cases hr : s.accounts[user]? with
  | none => simp [rights?, hr, Except.map]
  | some r =>
    have hnone := (h.accounts user r hr).isEmpty_iff
    cases he : r.rights.isEmpty with
    | true =>
      have hfree := hnone.mp he
      simp [rights?, hr, he, hfree, Except.map]
    | false =>
      have hheld : ¬ ∀ s p, r.rights.contains s p = false := by
        rw [← hnone, he]
        exact Bool.false_ne_true
      have hsome : ∃ s p, r.rights.contains s p = true := by simpa using hheld
      simp [rights?, hr, he, hheld, hsome, Except.map]

/-- A user who was granted a permission and lost it can be granted it again, though both requests
also name sections without permissions. -/
theorem granted_again_after_revocation :
    let c := Settings.ofSecret "secret"
    let now : Circumstances := ⟨⟨.ofSeconds 0 0, .ofSeconds 0 0⟩, ⟨⟨1⟩, [], []⟩⟩
    let q : Rights.Request := .ofList [("ORDERS", ["READ"]), ("CHAR", [])]
    let events : List Event :=
      [⟨now, .register ⟨"+15551234567", none, "Passw0rd!", none, none⟩⟩, ⟨now, .grant ⟨1⟩ q⟩,
        ⟨now, .revoke ⟨1⟩ (.ofList [("ORDERS", ["READ", "UPDATE"])])⟩]
    ∃ s, (ready .empty).after c events = .ready s ∧
      (Event.answer c ⟨now, .grant ⟨1⟩ q⟩ (.ready s)).1 =
        .ok (.rights (Rights.empty.put .orders (.ofList [.read]))) := by
  intro c now q events
  have hq : Rights.parseCompact q = .ok (Rights.empty.put .orders (.ofList [.read])) := by
    decide +kernel
  obtain ⟨s, hs, -, -, hgrant⟩ := rights_stay_compact c events
  have hleft : ((ready .empty).after c events).store?.bind (·.rights? ⟨1⟩) = some .empty := by
    decide +kernel
  rw [hs] at hleft
  obtain ⟨r, hr, hrights⟩ := Option.map_eq_some_iff.mp hleft
  refine ⟨s, hs, (hgrant now ⟨1⟩ q _ hq).1.mpr ⟨r, hr, ?_⟩⟩
  rw [hrights]
  exact Rights.compact_empty.isEmpty_iff.mp rfl

end Database

end Turnstile

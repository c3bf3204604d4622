import Turnstile.Operation
import Turnstile.Proofs.Actions

/-! What each operation can write. The store falls into parts, an operation writes a few of them,
and whatever can be read off the others is the same after it, whether it succeeds or fails. -/
namespace Turnstile

inductive Part where
  | accounts | credentials | tokens | rights | ledger | roles | contexts
  deriving DecidableEq, Repr

/-- One write to one part. Accounts are only added, and the other parts of a record are written
apart. -/
inductive Part.Writes (s : Store) : Part → Store → Prop where
  | account (a : NewAccount) (now : Instant) :
      Writes s .accounts { s with accounts := s.accounts.insert a.id (a.record now) }
  | credentials (id : Uuid) (phone passwordHash : String) (now : Instant) :
      Writes s .credentials (s.modifyAccount id fun r => { r with account :=
        { r.account with phone := phone, passwordHash := passwordHash, updatedAt := now } })
  | token (id : Uuid) (grant : Option RefreshGrant) :
      Writes s .tokens (s.modifyAccount id fun r => { r with refresh := grant })
  | rights (id : Uuid) (rights : Rights) :
      Writes s .rights (s.modifyAccount id fun r => { r with rights := rights })
  | ledger (l : Std.ExtTreeMap String FailedLogins) : Writes s .ledger { s with ledger := l }
  | roles (rs : Std.ExtTreeMap Uuid Role) : Writes s .roles { s with roles := rs }
  | contexts (cs : Std.ExtTreeMap (Uuid × String) Bool ContextKey.cmp) :
      Writes s .contexts { s with contexts := cs }

/-- Writes to the part do not show in the view. -/
def Part.Hidden {γ : Type} (view : Store → γ) (p : Part) : Prop :=
  ∀ s s', p.Writes s s' → view s' = view s

theorem Part.hidden_ledger {p : Part} (h : p ≠ .ledger) : p.Hidden Store.ledger := by
  intro s s' hw
  cases hw with
  | ledger l => exact absurd rfl h
  | _ => rfl

namespace Action.Keeps

variable {α γ : Type} {view : Store → γ} {p : Part}

/-- A call that writes nothing or writes one part. -/
theorem call_of_writes {f : Store → Except Error α × Store} (hp : p.Hidden view)
    (h : ∀ s, (f s).2 = s ∨ p.Writes s (f s).2) : Keeps view (Action.call f) :=
  .call fun s => (h s).elim (fun he => by rw [he]) (hp s _)

theorem change_of_writes {f : Store → α × Store} (hp : p.Hidden view)
    (h : ∀ s, (f s).2 = s ∨ p.Writes s (f s).2) : Keeps view (Action.change f) :=
  .change fun s => (h s).elim (fun he => by rw [he]) (hp s _)

end Action.Keeps

namespace Store

variable (s : Store)

theorem insertAccount_writes (a : NewAccount) (now : Instant) :
    (insertAccount a now s).2 = s ∨ Part.accounts.Writes s (insertAccount a now s).2 := by
  unfold insertAccount
  split
  · exact .inl rfl
  · exact .inr (.account a now)

theorem updateCredentials_writes (id : Uuid) (phone hash : String) (now : Instant) :
    (updateCredentials id phone hash now s).2 = s ∨
      Part.credentials.Writes s (updateCredentials id phone hash now s).2 := by
  unfold updateCredentials
  split
  · exact .inl rfl
  · split
    · exact .inr (.credentials id phone hash now)
    · exact .inl rfl

theorem saveRefresh_writes (id : Uuid) (g : RefreshGrant) :
    (saveRefresh id g s).2 = s ∨ Part.tokens.Writes s (saveRefresh id g s).2 := by
  unfold saveRefresh
  split
  · exact .inr (.token id (some g))
  · exact .inl rfl

theorem rotateRefresh_writes (id : Uuid) (current : Bytes) (next : RefreshGrant) :
    (rotateRefresh id current next s).2 = s ∨
      Part.tokens.Writes s (rotateRefresh id current next s).2 := by
  unfold rotateRefresh
  split
  · exact .inr (.token id (some next))
  · exact .inl rfl

theorem revokeRefresh_writes (digest : Bytes) :
    (revokeRefresh digest s).2 = s ∨ Part.tokens.Writes s (revokeRefresh digest s).2 := by
  unfold revokeRefresh
  split
  next e _ => exact .inr (.token e.1 none)
  next => exact .inl rfl

theorem replaceRights_writes (id : Uuid) (r : Rights) :
    (s.replaceRights id r).2 = s ∨ Part.rights.Writes s (s.replaceRights id r).2 := by
  unfold replaceRights
  split
  · exact .inr (.rights id r)
  · exact .inl rfl

theorem grantRights_writes (id : Uuid) (r : Rights) :
    (grantRights id r s).2 = s ∨ Part.rights.Writes s (grantRights id r s).2 := by
  unfold grantRights
  split
  · exact s.replaceRights_writes id r
  · exact .inl rfl

theorem updateRights_writes (id : Uuid) (change : Rights → Except Error Rights) :
    (updateRights id change s).2 = s ∨ Part.rights.Writes s (updateRights id change s).2 := by
  unfold updateRights
  split
  next => exact .inl rfl
  next =>
    split
    next => exact .inl rfl
    next r _ => exact .inr (.rights id r)

theorem insertRole_writes (r : Role) :
    (insertRole r s).2 = s ∨ Part.roles.Writes s (insertRole r s).2 := by
  unfold insertRole
  split
  · exact .inl rfl
  · exact .inr (.roles _)

theorem updateRole_writes (r : Role) :
    (updateRole r s).2 = s ∨ Part.roles.Writes s (updateRole r s).2 := by
  unfold updateRole
  split
  · split
    · exact .inl rfl
    · exact .inr (.roles _)
  · exact .inl rfl

theorem addMerchant_writes (user : Uuid) (merchant : String) :
    (addMerchant user merchant s).2 = s ∨
      Part.contexts.Writes s (addMerchant user merchant s).2 := by
  unfold addMerchant
  split
  · exact .inr (.contexts _)
  · exact .inl rfl

theorem setGlobal_writes (user : Uuid) (isGlobal : Bool) :
    (setGlobal user isGlobal s).2 = s ∨ Part.contexts.Writes s (setGlobal user isGlobal s).2 := by
  unfold setGlobal
  split
  · cases isGlobal <;> exact .inr (.contexts _)
  · exact .inl rfl

end Store

namespace Lockout

variable {γ : Type} {view : Store → γ}

theorem keeps_check (hl : Part.ledger.Hidden view) (now : Instant) (phone : String) :
    (check now phone).Keeps view := by
  apply Action.Keeps.bind (.query _)
  rintro (_ | r)
  · exact .pure ()
  · cases hv : FailedLogins.verdict r now <;> simp only [hv]
    · exact .throw _
    · exact .change_of_writes hl fun s => .inr (.ledger _)
    · exact .change_of_writes hl fun s => .inr (.ledger _)
    · exact .pure ()

theorem keeps_recordFailure (hl : Part.ledger.Hidden view) (now : Instant) (phone : String) :
    (recordFailure now phone).Keeps view := by
  apply Action.Keeps.bind (.change_of_writes hl fun s => .inr (.ledger _))
  intro attempts
  dsimp only
  split
  · exact .bind (.change_of_writes hl fun s => .inr (.ledger _)) fun _ => .pure attempts
  · exact .pure attempts

end Lockout

namespace Authentication

variable {γ : Type} {view : Store → γ}

theorem keeps_register (ha : Part.accounts.Hidden view) (wall : Instant) (id : Uuid) (salt : Bytes)
    (r : Registration) : (register wall id salt r).Keeps view := by
  refine .bind (.liftM _) fun _ => .bind (.query _) fun _ => .guarded _ ?_
  exact .bind (.call_of_writes ha fun s => s.insertAccount_writes _ wall) fun _ => .pure id

theorem keeps_login (hl : Part.ledger.Hidden view) (ht : Part.tokens.Hidden view) (c : Settings)
    (clocks : Clocks) (random : Bytes) (phone password : String) :
    (login c clocks random phone password).Keeps view := by
  refine .guarded _ <| .bind (.liftM _) fun _ => .bind (Lockout.keeps_check hl _ _) fun _ =>
    .bind (.query _) fun found => ?_
  cases found with
  | none => exact .bind (.map _ (Lockout.keeps_recordFailure hl _ _)) fun _ => .throw _
  | some account =>
    exact .bind (.liftM _) fun _ => .bind (.liftM _) fun pair => .bind (.liftM _) fun _ =>
      .bind (.liftM _) fun _ =>
      .bind (.call_of_writes ht fun s => s.saveRefresh_writes account.id _) fun _ => .pure pair

theorem keeps_refresh (ht : Part.tokens.Hidden view) (c : Settings) (clocks : Clocks)
    (random : Bytes) (token : String) : (refresh c clocks random token).Keeps view :=
  .guarded _ <| .bind (.query _) fun _ => .bind (.found _ _) fun _ => .bind (.query _) fun _ =>
    .bind (.found _ _) fun account => .bind (.liftM _) fun _ => .bind (.liftM _) fun pair =>
    .bind (.liftM _) fun _ => .bind (.liftM _) fun _ =>
    .bind (.change_of_writes ht fun s => s.rotateRefresh_writes account.id _ _) fun _ =>
    .bind (.require _ _) fun _ => .pure pair

theorem keeps_logout (ht : Part.tokens.Hidden view) (token : String) :
    (logout token).Keeps view :=
  .guarded _ <| .bind (.change_of_writes ht fun s => s.revokeRefresh_writes _) fun _ =>
    .require _ _

end Authentication

namespace Profiles

variable {γ : Type} {view : Store → γ}

theorem keeps_get (id : Uuid) : (get id).Keeps view := .bind (.query _) fun _ => .found _ _

theorem keeps_edit (hc : Part.credentials.Hidden view) (wall : Instant) (salt : Bytes) (id : Uuid)
    (phone password : String) : (edit wall salt id phone password).Keeps view :=
  .bind (.liftM _) fun _ => .bind (.liftM _) fun _ =>
    .bind (.call_of_writes hc fun s => s.updateCredentials_writes id _ _ wall) fun _ =>
    .bind (.require _ _) fun _ => keeps_get id

theorem keeps_rights (id : Uuid) : (rights id).Keeps view := .bind (.query _) fun _ => .found _ _

end Profiles

namespace Grants

variable {γ : Type} {view : Store → γ} (hr : Part.rights.Hidden view)
include hr

theorem keeps_grant (user : Uuid) (q : Rights.Request) : (grant user q).Keeps view := by
  refine .bind (.liftM _) fun r =>
    .bind (.change_of_writes hr fun s => s.grantRights_writes user r) fun granted => ?_
  refine .ite (.pure r) (.bind (.query _) fun held => ?_)
  cases held
  · exact .throw _
  · exact .throw _

theorem keeps_edit (user : Uuid) (q : Rights.Request) : (edit user q).Keeps view :=
  .bind (.liftM _) fun r =>
    .bind (.change_of_writes hr fun s => s.replaceRights_writes user r) fun _ =>
    .bind (.require _ _) fun _ => .pure r

theorem keeps_revoke (user : Uuid) (q : Rights.Request) : (revoke user q).Keeps view :=
  .bind (.liftM _) fun _ => .call_of_writes hr fun s => s.updateRights_writes user _

theorem keeps_assign (user role : Uuid) (merge : Bool) : (assign user role merge).Keeps view :=
  .bind (.query _) fun _ => .bind (.found _ _) fun _ =>
    .call_of_writes hr fun s => s.updateRights_writes user _

end Grants

namespace Roles

variable {γ : Type} {view : Store → γ}

theorem keeps_add (hr : Part.roles.Hidden view) (id : Uuid) (q : RoleRequest) :
    (add id q).Keeps view :=
  .bind (.liftM _) fun r =>
    .bind (.call_of_writes hr fun s => s.insertRole_writes r) fun _ => .pure r

theorem keeps_edit (hr : Part.roles.Hidden view) (id : Uuid) (q : RoleRequest) :
    (edit id q).Keeps view :=
  .bind (.liftM _) fun r => .bind (.call_of_writes hr fun s => s.updateRole_writes r) fun _ =>
    .bind (.require _ _) fun _ => .pure r

theorem keeps_delete (hr : Part.roles.Hidden view) (id : Uuid) : (delete id).Keeps view :=
  .bind (.change_of_writes hr fun _ => .inr (.roles _)) fun _ => .require _ _

theorem keeps_list : list.Keeps view := .query _

theorem keeps_rights (id : Uuid) : (rights id).Keeps view := .bind (.query _) fun _ => .found _ _

end Roles

namespace Scoping

variable {γ : Type} {view : Store → γ}

theorem keeps_get (user : Uuid) : (get user).Keeps view := .bind (.query _) fun _ => .pure _

theorem keeps_add (hc : Part.contexts.Hidden view) (user : Uuid) (merchant : Option String)
    (isGlobal : Bool) : (add user merchant isGlobal).Keeps view := by
  refine .ite ?_ ?_
  · exact .bind (.call_of_writes hc fun s => s.setGlobal_writes user true) fun _ => keeps_get user
  · exact .bind (.require _ _) fun _ =>
      .bind (.call_of_writes hc fun s => s.addMerchant_writes user _) fun _ => keeps_get user

theorem keeps_edit (hc : Part.contexts.Hidden view) (user : Uuid) (isGlobal : Bool) :
    (edit user isGlobal).Keeps view :=
  .bind (.call_of_writes hc fun s => s.setGlobal_writes user isGlobal) fun _ => keeps_get user

theorem keeps_delete (hc : Part.contexts.Hidden view) (user : Uuid) (merchant : String) :
    (delete user merchant).Keeps view :=
  .guarded _ <| .bind (.change_of_writes hc fun _ => .inr (.contexts _)) fun _ => .require _ _

theorem keeps_deleteAll (hc : Part.contexts.Hidden view) (user : Uuid) :
    (deleteAll user).Keeps view := .change_of_writes hc fun _ => .inr (.contexts _)

end Scoping

namespace Operation

/-- The parts of the store that an operation may write. -/
def parts : Operation → List Part
  | .register _ => [.accounts]
  | .login _ _ => [.ledger, .tokens]
  | .refresh _ | .logout _ => [.tokens]
  | .editUser _ _ _ => [.credentials]
  | .grant _ _ | .editRights _ _ | .revoke _ _ | .assign _ _ _ => [.rights]
  | .addRole _ | .editRole _ _ | .deleteRole _ => [.roles]
  | .addContext _ _ _ | .editContext _ _ | .deleteContext _ _ | .deleteContexts _ => [.contexts]
  | .getUser _ | .getUserRights _ | .getRoles | .getRoleRights _ | .getContexts _ => []

/-- An operation keeps every view that its parts do not show in. -/
theorem keeps {γ : Type} {view : Store → γ} (c : Settings) (now : Circumstances) (o : Operation)
    (h : ∀ p ∈ o.parts, p.Hidden view) : (o.action c now).Keeps view := by
  cases o with
  | register r => exact .map _ (Authentication.keeps_register (h _ (by simp [parts])) _ _ _ r)
  | login phone password =>
    exact .map _ (Authentication.keeps_login (h _ (by simp [parts])) (h _ (by simp [parts])) c _ _
      phone password)
  | refresh token => exact .map _ (Authentication.keeps_refresh (h _ (by simp [parts])) c _ _ token)
  | logout token => exact .map _ (Authentication.keeps_logout (h _ (by simp [parts])) token)
  | getUser user => exact .map _ (Profiles.keeps_get user)
  | editUser user phone password =>
    exact .map _ (Profiles.keeps_edit (h _ (by simp [parts])) _ _ user phone password)
  | getUserRights user => exact .map _ (Profiles.keeps_rights user)
  | grant user rights => exact .map _ (Grants.keeps_grant (h _ (by simp [parts])) user rights)
  | editRights user rights => exact .map _ (Grants.keeps_edit (h _ (by simp [parts])) user rights)
  | revoke user rights => exact .map _ (Grants.keeps_revoke (h _ (by simp [parts])) user rights)
  | assign user role merge =>
    exact .map _ (Grants.keeps_assign (h _ (by simp [parts])) user role merge)
  | addRole role => exact .map _ (Roles.keeps_add (h _ (by simp [parts])) _ role)
  | editRole id role => exact .map _ (Roles.keeps_edit (h _ (by simp [parts])) id role)
  | deleteRole id => exact .map _ (Roles.keeps_delete (h _ (by simp [parts])) id)
  | getRoles => exact .map _ Roles.keeps_list
  | getRoleRights id => exact .map _ (Roles.keeps_rights id)
  | addContext user merchant isGlobal =>
    exact .map _ (Scoping.keeps_add (h _ (by simp [parts])) user merchant isGlobal)
  | editContext user isGlobal =>
    exact .map _ (Scoping.keeps_edit (h _ (by simp [parts])) user isGlobal)
  | getContexts user => exact .map _ (Scoping.keeps_get user)
  | deleteContext user merchant =>
    exact .map _ (Scoping.keeps_delete (h _ (by simp [parts])) user merchant)
  | deleteContexts user => exact .map _ (Scoping.keeps_deleteAll (h _ (by simp [parts])) user)

end Operation

end Turnstile

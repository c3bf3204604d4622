import Turnstile.Grants
import Turnstile.Proofs.Actions
import Turnstile.Proofs.Outcomes
import Turnstile.Roles
import Turnstile.Scoping

/-! Rights, roles and merchant contexts on a store that answers, each operation as one equation: what
it answers and the store it leaves. -/
namespace Turnstile

theorem Store.mem_of_rights? {s : Store} {user : Uuid} {own : Rights}
    (h : s.rights? user = some own) : user ∈ s.accounts := by
  obtain ⟨r, hr, -⟩ := Option.map_eq_some_iff.mp h
  exact Std.ExtTreeMap.isSome_getElem?_iff_mem.mp (by rw [hr]; rfl)

/-- Erasing what is not there is no change. -/
theorem erase_eq_of_notMem {α β : Type} {cmp : α → α → Ordering} [Std.TransCmp cmp]
    [Std.LawfulEqCmp cmp] {m : Std.ExtTreeMap α β cmp} {k : α} (h : k ∉ m) : m.erase k = m := by
  ext a : 1
  rw [Std.ExtTreeMap.getElem?_erase]
  split
  next hk =>
    rw [← Std.LawfulEqCmp.eq_of_compare hk]
    exact (Std.ExtTreeMap.getElem?_eq_none h).symm
  next => rfl

/-- A valid role carries the identifier it was asked for under, and rights that went through the
check of a request. -/
theorem RoleRequest.of_validate {q : RoleRequest} {id : Uuid} {r : Role}
    (h : q.validate id = .ok r) : r.id = id ∧ Rights.parseCompact q.rights = .ok r.rights := by
  obtain ⟨name, -, h⟩ := ok_of_bind h
  dsimp only at h
  split at h
  next => cases h
  next =>
    obtain ⟨rights, hrights, h⟩ := ok_of_bind h
    cases h
    exact ⟨rfl, hrights⟩

namespace Grants

variable (user : Uuid) (q : Rights.Request) (s : Store)

theorem perform_grant_ready :
    (grant user q).perform (.ready s) =
      match Rights.parseCompact q with
      | .error e => (.error e, .ready s)
      | .ok r =>
        match s.rights? user with
        | none => (.error (.notFound "user"), .ready s)
        | some own =>
          if own.isEmpty then
            (.ok r, .ready (s.modifyAccount user fun a => { a with rights := r }))
          else (.error .alreadyHasRights, .ready s) := by
  unfold grant
  rw [Action.perform_bind, Action.perform_liftM]
  cases Rights.parseCompact q with
  | error e => rfl
  | ok r =>
    dsimp only
    rw [Action.perform_bind, Action.perform_change_ready]
    cases hown : s.rights? user with
    | none => simp [Store.grantRights, hown, Action.perform_bind]
    | some own =>
      have hmem : user ∈ s.accounts := Store.mem_of_rights? hown
      cases he : own.isEmpty <;>
        simp [Store.grantRights, Store.replaceRights, hown, he, hmem, Action.perform_bind]

theorem perform_edit_ready :
    (edit user q).perform (.ready s) =
      match Rights.parseCompact q with
      | .error e => (.error e, .ready s)
      | .ok r =>
        if user ∈ s.accounts then
          (.ok r, .ready (s.modifyAccount user fun a => { a with rights := r }))
        else (.error (.notFound "user"), .ready s) := by
  unfold edit
  rw [Action.perform_bind, Action.perform_liftM]
  cases Rights.parseCompact q with
  | error e => rfl
  | ok r =>
    by_cases hmem : user ∈ s.accounts <;>
      simp [Store.replaceRights, hmem, Action.perform_bind, Action.perform_map, Except.map]

theorem perform_revoke_ready :
    (revoke user q).perform (.ready s) =
      match Rights.parse q with
      | .error e => (.error e, .ready s)
      | .ok revoked =>
        let (answer, s') := s.updateRights user (Rights.revoke · revoked)
        (answer, .ready s') := by
  unfold revoke
  rw [Action.perform_bind, Action.perform_liftM]
  cases Rights.parse q <;> rfl

theorem perform_assign_ready (role : Uuid) (merge : Bool) :
    (assign user role merge).perform (.ready s) =
      match s.role? role with
      | none => (.error (.notFound "role"), .ready s)
      | some r =>
        let (answer, s') := s.updateRights user fun own =>
          .ok (if merge then own.merge r.rights else r.rights)
        (answer, .ready s') := by
  unfold assign
  rw [Action.perform_bind, Action.perform_query_ready]
  dsimp only
  rw [Action.perform_bind, Action.perform_found]
  cases s.role? role <;> rfl

end Grants

namespace Roles

variable (id : Uuid) (q : RoleRequest) (s : Store)

theorem perform_add_ready :
    (add id q).perform (.ready s) =
      match q.validate id with
      | .error e => (.error e, .ready s)
      | .ok r =>
        let (added, s') := s.insertRole r
        (added.map fun _ => r, .ready s') := by
  unfold add
  rw [Action.perform_bind, Action.perform_liftM]
  cases q.validate id with
  | error e => rfl
  | ok r => simp [Action.perform_map]

theorem perform_edit_ready :
    (edit id q).perform (.ready s) =
      match q.validate id with
      | .error e => (.error e, .ready s)
      | .ok r =>
        let (known, s') := s.updateRole r
        (known.bind fun known => if known then .ok r else .error (.notFound "role"), .ready s') := by
  unfold edit
  rw [Action.perform_bind, Action.perform_liftM]
  cases q.validate id with
  | error e => rfl
  | ok r =>
    dsimp only
    rw [Action.perform_bind, Action.perform_call_ready]
    cases (s.updateRole r).1 with
    | error e => rfl
    | ok known => cases known <;> rfl

theorem perform_delete_ready :
    (delete id).perform (.ready s) =
      (if id ∈ s.roles then .ok () else .error (.notFound "role"),
        .ready { s with roles := s.roles.erase id }) := by
  simp [delete, Store.deleteRole, Action.perform_bind]

end Roles

namespace Scoping

variable (user : Uuid) (s : Store)

theorem perform_get_ready :
    (get user).perform (.ready s) =
      (.ok (UserContexts.ofRows user (s.contextRows user)), .ready s) := by
  simp [get, Action.perform_map, Except.map]

/-- A write to the contexts of a user is followed by a look at what they now are. -/
theorem perform_call_get (f : Store → Except Error Unit × Store) :
    (do Action.call f; get user).perform (.ready s) =
      let (done, s') := f s
      (done.map fun _ => UserContexts.ofRows user (s'.contextRows user), .ready s') := by
  rw [Action.perform_bind, Action.perform_call_ready]
  rcases f s with ⟨_ | _, s'⟩
  · rfl
  · exact perform_get_ready user s'

theorem perform_add_global_ready (merchant : Option String) :
    (add user merchant true).perform (.ready s) =
      let (done, s') := s.setGlobal user true
      (done.map fun _ => UserContexts.ofRows user (s'.contextRows user), .ready s') :=
  perform_call_get user s (Store.setGlobal user true)

theorem perform_add_merchant_ready (merchant : Option String) :
    (add user merchant false).perform (.ready s) =
      if Merchant.validId (Text.trim (merchant.getD "")) then
        let (done, s') := s.addMerchant user (Text.trim (merchant.getD ""))
        (done.map fun _ => UserContexts.ofRows user (s'.contextRows user), .ready s')
      else
        (.error (.validation "merchant id is required unless the context is global"), .ready s) := by
  have hadd : add user merchant false = (do
      Action.require (Merchant.validId (Text.trim (merchant.getD "")))
        (.validation "merchant id is required unless the context is global")
      Action.call (Store.addMerchant user (Text.trim (merchant.getD "")))
      get user) := rfl
  rw [hadd, Action.perform_bind, Action.perform_require]
  cases Merchant.validId (Text.trim (merchant.getD "")) with
  | false => rfl
  | true => exact perform_call_get user s _

theorem perform_edit_ready (isGlobal : Bool) :
    (edit user isGlobal).perform (.ready s) =
      let (done, s') := s.setGlobal user isGlobal
      (done.map fun _ => UserContexts.ofRows user (s'.contextRows user), .ready s') :=
  perform_call_get user s (Store.setGlobal user isGlobal)

theorem perform_delete_ready (merchant : String) :
    (delete user merchant).perform (.ready s) =
      if Text.trim merchant = "" then (.error (.notFound "user context"), .ready s)
      else (if (user, Text.trim merchant) ∈ s.contexts then .ok ()
        else .error (.notFound "user context"),
        .ready { s with contexts := s.contexts.erase (user, Text.trim merchant) }) := by
  unfold delete
  dsimp only
  split
  next => rfl
  next =>
    rw [Action.perform_bind]
    simp [Store.deleteMerchant]

theorem perform_deleteAll_ready :
    (deleteAll user).perform (.ready s) =
      (.ok (s.contextRows user).length, .ready (s.dropContexts user)) := rfl

end Scoping

end Turnstile

import Turnstile.Proofs.Administration
import Turnstile.Proofs.Inputs

/-! Operations on a user or a role that is not there. With a valid input each of them answers that its
target was not found, and leaves the store alone. The one exception is the change of a phone: if
somebody has the new phone, that is what is answered, though there is no one to change. -/
namespace Turnstile

namespace Store

variable {s : Store} {user : Uuid}

theorem rights?_eq_none (h : user ∉ s.accounts) : s.rights? user = none := by
  rw [rights?, Std.ExtTreeMap.getElem?_eq_none h, Option.map_none]

theorem updateRights_of_notMem (h : user ∉ s.accounts) (change : Rights → Except Error Rights) :
    s.updateRights user change = (.error (.notFound "user"), s) := by
  rw [updateRights, rights?_eq_none h]

theorem addMerchant_of_notMem (h : user ∉ s.accounts) (merchant : String) :
    s.addMerchant user merchant = (.error (.notFound "user"), s) := if_neg h

theorem setGlobal_of_notMem (h : user ∉ s.accounts) (isGlobal : Bool) :
    s.setGlobal user isGlobal = (.error (.notFound "user"), s) := if_neg h

theorem updateCredentials_of_notMem (h : user ∉ s.accounts) (phone hash : String) (now : Instant) :
    s.updateCredentials user phone hash now =
      if s.phoneTakenByOther phone user then (.error (.conflict "phone already in use"), s)
      else (.ok false, s) := by
  rw [updateCredentials, if_neg h]

theorem updateRole_of_notMem {r : Role} (h : r.id ∉ s.roles) : s.updateRole r = (.ok false, s) :=
  if_neg h

end Store

/-! Each operation on a store that does not have its target. -/

namespace Profiles

variable {s : Store} {user : Uuid} (h : user ∉ s.accounts)
include h

theorem perform_get_missing :
    (get user).perform (.ready s) = (.error (.notFound "user"), .ready s) := by
  have hnone : s.account? user = none := by
    rw [Store.account?, Std.ExtTreeMap.getElem?_eq_none h, Option.map_none]
  rw [get, Action.perform_bind, Action.perform_query_ready]
  dsimp only
  rw [Action.perform_found, hnone]
  rfl

theorem perform_rights_missing :
    (rights user).perform (.ready s) = (.error (.notFound "user"), .ready s) := by
  rw [rights, Action.perform_bind, Action.perform_query_ready]
  dsimp only
  rw [Action.perform_found, Store.rights?_eq_none h]
  rfl

/-- Whether the new phone is taken is looked at before whether there is an account to change. -/
theorem perform_edit_missing {phone password : String} (wall : Instant) (salt : Bytes)
    (hphone : Phone.validate (Phone.normalize phone) = .ok ())
    (hpassword : Password.validate password = .ok ()) :
    (edit wall salt user phone password).perform (.ready s) =
      (.error (if s.phoneTakenByOther (Phone.normalize phone) user then
        .conflict "phone already in use" else .notFound "user"), .ready s) := by
  rw [perform_edit_ready, hphone, hpassword]
  dsimp only
  rw [Store.updateCredentials_of_notMem h]
  cases s.phoneTakenByOther (Phone.normalize phone) user <;> rfl

end Profiles

namespace Grants

variable {s : Store} {user : Uuid} (h : user ∉ s.accounts)
include h

theorem perform_grant_missing {q : Rights.Request} {r : Rights}
    (hq : Rights.parseCompact q = .ok r) :
    (grant user q).perform (.ready s) = (.error (.notFound "user"), .ready s) := by
  rw [perform_grant_ready, hq]
  dsimp only
  rw [Store.rights?_eq_none h]

theorem perform_edit_missing {q : Rights.Request} {r : Rights}
    (hq : Rights.parseCompact q = .ok r) :
    (edit user q).perform (.ready s) = (.error (.notFound "user"), .ready s) := by
  rw [perform_edit_ready, hq]
  dsimp only
  rw [if_neg h]

theorem perform_revoke_missing {q : Rights.Request} {r : Rights} (hq : Rights.parse q = .ok r) :
    (revoke user q).perform (.ready s) = (.error (.notFound "user"), .ready s) := by
  rw [perform_revoke_ready, hq]
  dsimp only
  rw [Store.updateRights_of_notMem h]

theorem perform_assign_missing {role : Uuid} (hrole : role ∈ s.roles) (merge : Bool) :
    (assign user role merge).perform (.ready s) = (.error (.notFound "user"), .ready s) := by
  obtain ⟨r, hr⟩ := Option.isSome_iff_exists.mp (Std.ExtTreeMap.isSome_getElem?_iff_mem.mpr hrole)
  rw [perform_assign_ready, Store.role?, hr]
  dsimp only
  rw [Store.updateRights_of_notMem h]

omit h in
theorem perform_assign_missing_role {role : Uuid} (hrole : role ∉ s.roles) (merge : Bool) :
    (assign user role merge).perform (.ready s) = (.error (.notFound "role"), .ready s) := by
  rw [perform_assign_ready, Store.role?, Std.ExtTreeMap.getElem?_eq_none hrole]

end Grants

namespace Roles

variable {s : Store} {id : Uuid} (h : id ∉ s.roles)
include h

theorem perform_edit_missing {q : RoleRequest} {r : Role} (hq : q.validate id = .ok r) :
    (edit id q).perform (.ready s) = (.error (.notFound "role"), .ready s) := by
  obtain ⟨rfl, -⟩ := RoleRequest.of_validate hq
  rw [perform_edit_ready, hq]
  dsimp only
  rw [Store.updateRole_of_notMem h]
  rfl

theorem perform_delete_missing :
    (delete id).perform (.ready s) = (.error (.notFound "role"), .ready s) := by
  rw [perform_delete_ready, if_neg h, erase_eq_of_notMem h]

theorem perform_rights_missing :
    (rights id).perform (.ready s) = (.error (.notFound "role"), .ready s) := by
  rw [rights, Action.perform_bind, Action.perform_query_ready]
  dsimp only
  rw [Action.perform_found, Store.role?, Std.ExtTreeMap.getElem?_eq_none h]
  rfl

end Roles

namespace Scoping

variable {s : Store} {user : Uuid} (h : user ∉ s.accounts)
include h

theorem perform_add_missing {merchant : Option String} {isGlobal : Bool}
    (hvalid : isGlobal = true ∨ Merchant.validId (Text.trim (merchant.getD "")) = true) :
    (add user merchant isGlobal).perform (.ready s) = (.error (.notFound "user"), .ready s) := by
  cases isGlobal with
  | true =>
    rw [perform_add_global_ready, Store.setGlobal_of_notMem h]
    rfl
  | false =>
    obtain hvalid := hvalid.resolve_left nofun
    rw [perform_add_merchant_ready, if_pos hvalid, Store.addMerchant_of_notMem h]
    rfl

theorem perform_edit_missing (isGlobal : Bool) :
    (edit user isGlobal).perform (.ready s) = (.error (.notFound "user"), .ready s) := by
  rw [perform_edit_ready, Store.setGlobal_of_notMem h]
  rfl

end Scoping

namespace Operation

/-- What the operation is for and the store does not have. -/
def missing? (s : Store) : Operation → Option String
  | .getUser user | .editUser user _ _ | .getUserRights user | .grant user _ | .editRights user _
  | .revoke user _ | .addContext user _ _ | .editContext user _ =>
    if user ∈ s.accounts then none else some "user"
  | .assign user role _ =>
    if role ∉ s.roles then some "role" else if user ∈ s.accounts then none else some "user"
  | .editRole id _ | .deleteRole id | .getRoleRights id =>
    if id ∈ s.roles then none else some "role"
  | .register _ | .login _ _ | .refresh _ | .logout _ | .addRole _ | .getRoles | .getContexts _
  | .deleteContext _ _ | .deleteContexts _ => none

/-- The operation asks for a phone that someone else has. -/
def takesPhone (s : Store) : Operation → Bool
  | .editUser user phone _ => s.phoneTakenByOther (Phone.normalize phone) user
  | _ => false

end Operation

namespace Event

variable {s : Store} {what : String}

/-- Whatever else is in the store, a target that is missing is told as missing, unless the operation
asks for a phone that someone has. -/
theorem answer_of_missing (c : Settings) (e : Event) (hmissing : e.operation.missing? s = some what)
    (hvalid : e.operation.inputError? = none) :
    e.answer c (.ready s) =
      (.error (if e.operation.takesPhone s then .conflict "phone already in use"
        else .notFound what), .ready s) := by
  obtain ⟨now, o⟩ := e
  have hfirst {p : Prop} [Decidable p] {a : String}
      (h : (if p then none else some a) = some what) : ¬ p ∧ a = what := by
    obtain ⟨hp, h⟩ := Option.ite_none_left_eq_some.mp h
    exact ⟨hp, Option.some.inj h⟩
  cases o with
  | getUser user =>
    obtain ⟨h, rfl⟩ := hfirst hmissing
    exact Action.perform_map_of_error (Profiles.perform_get_missing h) _
  | editUser user phone password =>
    obtain ⟨h, rfl⟩ := hfirst hmissing
    obtain ⟨hphone, hpassword⟩ := Option.or_eq_none_iff.mp hvalid
    obtain ⟨⟨⟩, hphone⟩ := errorOf_eq_none_iff.mp hphone
    obtain ⟨⟨⟩, hpassword⟩ := errorOf_eq_none_iff.mp hpassword
    exact Action.perform_map_of_error (Profiles.perform_edit_missing h _ _ hphone hpassword) _
  | getUserRights user =>
    obtain ⟨h, rfl⟩ := hfirst hmissing
    exact Action.perform_map_of_error (Profiles.perform_rights_missing h) _
  | grant user q =>
    obtain ⟨h, rfl⟩ := hfirst hmissing
    obtain ⟨r, hq⟩ := errorOf_eq_none_iff.mp hvalid
    exact Action.perform_map_of_error (Grants.perform_grant_missing h hq) _
  | editRights user q =>
    obtain ⟨h, rfl⟩ := hfirst hmissing
    obtain ⟨r, hq⟩ := errorOf_eq_none_iff.mp hvalid
    exact Action.perform_map_of_error (Grants.perform_edit_missing h hq) _
  | revoke user q =>
    obtain ⟨h, rfl⟩ := hfirst hmissing
    obtain ⟨r, hq⟩ := errorOf_eq_none_iff.mp hvalid
    exact Action.perform_map_of_error (Grants.perform_revoke_missing h hq) _
  | assign user role merge =>
    rw [Operation.missing?] at hmissing
    split at hmissing
    next hrole =>
      cases hmissing
      exact Action.perform_map_of_error (Grants.perform_assign_missing_role hrole merge) _
    next hrole =>
      obtain ⟨h, rfl⟩ := hfirst hmissing
      exact Action.perform_map_of_error
        (Grants.perform_assign_missing h (Decidable.not_not.mp hrole) merge) _
  | editRole id q =>
    obtain ⟨h, rfl⟩ := hfirst hmissing
    obtain ⟨r, hq⟩ := errorOf_eq_none_iff.mp hvalid
    exact Action.perform_map_of_error (Roles.perform_edit_missing h hq) _
  | deleteRole id =>
    obtain ⟨h, rfl⟩ := hfirst hmissing
    exact Action.perform_map_of_error (Roles.perform_delete_missing h) _
  | getRoleRights id =>
    obtain ⟨h, rfl⟩ := hfirst hmissing
    exact Action.perform_map_of_error (Roles.perform_rights_missing h) _
  | addContext user merchant isGlobal =>
    obtain ⟨h, rfl⟩ := hfirst hmissing
    refine Action.perform_map_of_error (Scoping.perform_add_missing h ?_) _
    cases isGlobal with
    | true => exact .inl rfl
    | false =>
      rw [Operation.inputError?] at hvalid
      exact .inr (by_contra fun hn => by rw [if_neg hn] at hvalid; cases hvalid)
  | editContext user isGlobal =>
    obtain ⟨h, rfl⟩ := hfirst hmissing
    exact Action.perform_map_of_error (Scoping.perform_edit_missing h isGlobal) _
  | _ => cases hmissing

/-- Rights granted to a user who is not there, in a store with somebody else in it. -/
theorem grant_to_nobody :
    let c := Settings.ofSecret "secret"
    let now : Circumstances := ⟨⟨.ofSeconds 0 0, .ofSeconds 0 0⟩, ⟨⟨1⟩, [], []⟩⟩
    let a : NewAccount := ⟨⟨1⟩, "+15551234567", none, "hash", none, none⟩
    let s := (Store.empty.insertAccount a (.ofSeconds 0 0)).2
    let e : Event := ⟨now, .grant ⟨2⟩ (.ofList [("ORDERS", ["READ"])])⟩
    e.operation.missing? s = some "user" ∧ e.operation.inputError? = none ∧
      e.answer c (.ready s) = (.error (.notFound "user"), .ready s) := by
  intro c now a s e
  have hmissing : e.operation.missing? s = some "user" := by decide +kernel
  have hvalid : e.operation.inputError? = none := by decide +kernel
  exact ⟨hmissing, hvalid, answer_of_missing c e hmissing hvalid⟩

/-- The phone of somebody else, asked for on behalf of a user who is not there: what is answered is
the conflict and not the absence. -/
theorem taken_phone_hides_absence :
    let c := Settings.ofSecret "secret"
    let now : Circumstances := ⟨⟨.ofSeconds 0 0, .ofSeconds 0 0⟩, ⟨⟨1⟩, [], []⟩⟩
    let first : Event := ⟨now, .register ⟨"+15551234567", none, "Passw0rd!", none, none⟩⟩
    let e : Event := ⟨now, .editUser ⟨2⟩ "+15551234567" "N3w!passwd"⟩
    ∃ s, (Database.ready .empty).after c [first] = .ready s ∧ e.operation.missing? s = some "user" ∧
      e.operation.inputError? = none ∧
      (e.answer c (.ready s)).1 = .error (.conflict "phone already in use") := by
  intro c now first e
  obtain ⟨s, hs⟩ := first.exists_ready c .empty
  have hmissing : ((Database.ready .empty).after c [first]).store?.bind
      (fun s => e.operation.missing? s) = some "user" := by decide +kernel
  have hanswer : (e.answer c ((Database.ready .empty).after c [first])).1 =
      .error (.conflict "phone already in use") := by decide +kernel
  have hafter : (Database.ready .empty).after c [first] = .ready s := hs
  rw [hafter] at hmissing hanswer
  exact ⟨s, hafter, hmissing, by decide +kernel, hanswer⟩

end Event

end Turnstile

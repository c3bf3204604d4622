import Turnstile.Proofs.Programs
import Turnstile.Proofs.RightsRequests
import Turnstile.Proofs.Uniqueness

/-! What an operation refuses its input for. It does so before it makes any call on a store, so a bad
input is told whatever the store is and even if there is none; nothing that comes later blames the
input. -/
namespace Turnstile

variable {σ α β : Type}

/-- The error of a check that is not passed. -/
def errorOf : Except Error α → Option Error
  | .error e => some e
  | .ok _ => none

theorem errorOf_eq_some_iff {x : Except Error α} {e : Error} :
    errorOf x = some e ↔ x = .error e := by
  cases x <;> simp [errorOf]

theorem errorOf_eq_none_iff {x : Except Error α} : errorOf x = none ↔ ∃ v, x = .ok v := by
  cases x <;> simp [errorOf]

namespace Action

/-- No answer says that the input was invalid. -/
def Blameless (a : Action α) : Prop := ∀ db e, (a.perform db).1 = .error e → e.kind ≠ .validation

namespace Blameless

variable {a : Action α}

theorem pure (x : α) : Blameless (Pure.pure x : Action α) := Avoids.pure x

theorem throw {e : Error} (he : e.kind ≠ .validation) :
    Blameless (MonadExcept.throw e : Action α) := Avoids.throw he

theorem found {e : Error} {o : Option α} (he : e.kind ≠ .validation) :
    Blameless (Action.found e o) := Avoids.found he

theorem require {e : Error} {holds : Bool} (he : e.kind ≠ .validation) :
    Blameless (Action.require holds e) := Avoids.require he

theorem query (f : Store → α) : Blameless (Action.query f) :=
  Avoids.query (k := .validation) (by decide) f

theorem change (f : Store → α × Store) : Blameless (Action.change f) :=
  Avoids.change (k := .validation) (by decide) f

theorem bind {f : α → Action β} (ha : Blameless a) (hf : ∀ x, Blameless (f x)) :
    Blameless (a >>= f) := Avoids.bind ha hf

theorem map (f : α → β) (ha : Blameless a) : Blameless (f <$> a) := Avoids.map f ha

theorem ite {p : Prop} [Decidable p] {b : Action α} (ha : Blameless a) (hb : Blameless b) :
    Blameless (if p then a else b) := Avoids.ite ha hb

/-- An action after a refusal that may come before it. -/
theorem guarded {p : Prop} [Decidable p] {e : Error} (he : e.kind ≠ .validation)
    (ha : Blameless a) :
    Blameless (if p then (MonadExcept.throw e : Action Unit) >>= fun _ => a else a) :=
  Avoids.guarded he ha

end Blameless

end Action

namespace Program

variable {a b : Action α} {e? : Option Error}

/-- Either the program ends in an error before it makes a call, or it comes to a call and does not
blame its input from there on. -/
structure Checked (e? : Option Error) (p : Program a) : Prop where
  early : p.early = e?.map .error
  late : e? = none → a.Blameless

namespace Checked

theorem call {k : StoreCall α} (hk : (Action.call k.onStore).Blameless) : Checked none (.call k) :=
  ⟨rfl, fun _ => hk⟩

theorem map (f : α → β) {p : Program a} (hp : p.Checked e?) : (p.map f).Checked e? where
  early := by
    unfold Program.early
    rw [hp.early, Option.map_map]
    rfl
  late he := (hp.late he).map f

theorem bind {f : α → Action β} {p : Program a} {q : ∀ x, Program (f x)} (hp : p.Checked e?)
    (hf : ∀ x, (f x).Blameless) : (p.bind q).Checked e? where
  early := by
    unfold Program.early
    rw [hp.early]
    cases e? <;> rfl
  late he := (hp.late he).bind hf

/-- One check and then another: the first that is not passed decides. -/
theorem check_or {f : α → Action β} {x : Except Error α} {q : ∀ v, Program (f v)}
    (hq : ∀ v, (q v).Checked e?) : ((lift x).bind q).Checked ((errorOf x).or e?) := by
  cases x with
  | error e => exact ⟨rfl, nofun⟩
  | ok v => exact ⟨(hq v).early, (hq v).late⟩

theorem check {f : α → Action β} {x : Except Error α} {q : ∀ v, Program (f v)}
    (hq : ∀ v, (q v).Checked none) : ((lift x).bind q).Checked (errorOf x) := by
  rw [← Option.or_none (o := errorOf x)]
  exact check_or hq

theorem require {f : Unit → Action β} {holds : Bool} {e : Error} {q : ∀ v, Program (f v)}
    (hq : (q ()).Checked none) :
    ((Program.require holds e).bind q).Checked (if holds then none else some e) := by
  cases holds with
  | false => exact ⟨rfl, nofun⟩
  | true => exact ⟨hq.early, hq.late⟩

theorem ite {c : Prop} [d : Decidable c] {p : Program a} {q : Program b}
    (hp : c → p.Checked e?) (hq : ¬ c → q.Checked e?) : (Program.ite c d p q).Checked e? := by
  by_cases hc : c
  · refine ⟨?_, fun he => ?_⟩
    · rw [Program.early, if_pos hc, (hp hc).early]
    · rw [if_pos hc]
      exact (hp hc).late he
  · refine ⟨?_, fun he => ?_⟩
    · rw [Program.early, if_neg hc, (hq hc).early]
    · rw [if_neg hc]
      exact (hq hc).late he

theorem guarded {c : Prop} [Decidable c] {e : Error} {p : Program a} (hp : p.Checked e?) :
    (Program.guarded (c := c) e p).Checked (if c then some e else e?) := by
  apply ite
  · intro hc
    rw [if_pos hc]
    exact ⟨rfl, nofun⟩
  · intro hc
    rw [if_neg hc]
    exact hp

end Checked

end Program

/-! The checks of requests. -/

namespace Rights

theorem kind_of_revoke {current revoked : Rights} {e : Error}
    (h : current.revoke revoked = .error e) : e.kind = .notFound := by
  obtain ⟨entry, -, r, h⟩ := error_of_foldlM h
  unfold revokeEntry at h
  split at h
  next =>
    cases h
    rfl
  next => split at h <;> cases h

theorem EntryFault.kind {entry : String × List String} {e : Error} (h : EntryFault entry e) :
    e.kind = .validation := by
  cases h <;> rfl

theorem kind_of_parse {q : Request} {e : Error} (h : parse q = .error e) :
    e.kind = .validation := by
  rcases parse_eq_error_iff.mp h with ⟨-, rfl⟩ | ⟨_, _, -, -, hfault⟩
  · rfl
  · exact hfault.kind

theorem kind_of_parseCompact {q : Request} {e : Error} (h : parseCompact q = .error e) :
    e.kind = .validation := by
  rcases error_of_bind h with h | ⟨r, -, h⟩
  · exact kind_of_parse h
  · split at h <;> cases h
    rfl

end Rights

namespace RoleRequest

variable (q : RoleRequest)

/-- The identifier of a role has no part in whether it is valid. -/
theorem errorOf_validate (id id' : Uuid) : errorOf (q.validate id) = errorOf (q.validate id') := by
  unfold validate
  cases RoleName.parse (Text.trim q.name) with
  | error e => simp only [bind, Except.bind]
  | ok name =>
    by_cases hblank : Text.trim q.localizedName = ""
    · simp only [bind, Except.bind, hblank, if_true, throw, throwThe, MonadExceptOf.throw]
    · cases Rights.parseCompact q.rights <;>
        simp only [bind, Except.bind, pure, Except.pure, hblank, if_false, errorOf]

theorem kind_of_validate {q : RoleRequest} {id : Uuid} {e : Error} (h : q.validate id = .error e) :
    e.kind = .validation := by
  rcases error_of_bind h with h | ⟨name, -, h⟩
  · unfold RoleName.parse at h
    split at h <;> cases h
    rfl
  · dsimp only at h
    split at h
    next =>
      cases h
      rfl
    next =>
      rcases error_of_bind h with h | ⟨_, -, h⟩
      · exact Rights.kind_of_parseCompact h
      · cases h

end RoleRequest

/-! Nothing that comes after the checks blames the input: not the calls on the store, and not the
settings that a session is issued under. -/

/-- The kinds of errors that a call on a store can end in of itself. -/
def ErrorKind.ofStore : List ErrorKind := [.notFound, .conflict, .unavailable]

namespace Store

variable {k : ErrorKind} (hk : k ∉ ErrorKind.ofStore)
include hk

theorem avoids_call {f : Store → Except Error α × Store}
    (hf : ∀ s e, (f s).1 = .error e → e.kind ∈ ErrorKind.ofStore ∨ e.kind ≠ k) :
    (Action.call f).Avoids k := by
  apply Action.Avoids.call
  · rintro rfl
    exact hk (by decide)
  · intro s e he hkind
    subst hkind
    rcases hf s e he with hmem | hne
    · exact hk hmem
    · exact hne rfl

theorem avoids_insertAccount (a : NewAccount) (now : Instant) :
    (Action.call (insertAccount a now)).Avoids k := avoids_call hk fun s e h => by
  unfold insertAccount at h
  split at h <;> cases h
  exact .inl (by decide)

theorem avoids_updateCredentials (id : Uuid) (phone hash : String) (now : Instant) :
    (Action.call (updateCredentials id phone hash now)).Avoids k := avoids_call hk fun s e h => by
  unfold updateCredentials at h
  split at h
  next =>
    cases h
    exact .inl (by decide)
  next => split at h <;> cases h

theorem avoids_saveRefresh (id : Uuid) (g : RefreshGrant) :
    (Action.call (saveRefresh id g)).Avoids k := avoids_call hk fun s e h => by
  unfold saveRefresh at h
  split at h <;> cases h
  exact .inl (by decide)

theorem avoids_updateRights (id : Uuid) {change : Rights → Except Error Rights}
    (hchange : ∀ own e, change own = .error e → e.kind ≠ k) :
    (Action.call (updateRights id change)).Avoids k := avoids_call hk fun s e h => by
  unfold updateRights at h
  split at h
  next =>
    cases h
    exact .inl (by decide)
  next own _ =>
    split at h
    next e' he =>
      cases h
      exact .inr (hchange own e he)
    next => cases h

theorem avoids_insertRole (r : Role) :
    (Action.call (insertRole r)).Avoids k := avoids_call hk fun s e h => by
  unfold insertRole at h
  split at h <;> cases h
  exact .inl (show ErrorKind.conflict ∈ ErrorKind.ofStore by decide)

theorem avoids_updateRole (r : Role) :
    (Action.call (updateRole r)).Avoids k := avoids_call hk fun s e h => by
  unfold updateRole at h
  split at h
  next =>
    split at h <;> cases h
    exact .inl (show ErrorKind.conflict ∈ ErrorKind.ofStore by decide)
  next => cases h

theorem avoids_addMerchant (user : Uuid) (merchant : String) :
    (Action.call (addMerchant user merchant)).Avoids k := avoids_call hk fun s e h => by
  unfold addMerchant at h
  split at h <;> cases h
  exact .inl (by decide)

theorem avoids_setGlobal (user : Uuid) (isGlobal : Bool) :
    (Action.call (setGlobal user isGlobal)).Avoids k := avoids_call hk fun s e h => by
  unfold setGlobal at h
  split at h <;> cases h
  exact .inl (by decide)

end Store

namespace Lockout

theorem checked_check (now : Instant) (phone : String) : (checkProgram now phone).Checked none := by
  refine .bind (.call (.query _)) ?_
  rintro (_ | r)
  · exact .pure ()
  · cases hv : FailedLogins.verdict r now <;> simp only [hv]
    · exact .throw nofun
    · exact .change _
    · exact .change _
    · exact .pure ()

theorem blameless_recordFailure (now : Instant) (phone : String) :
    (recordFailure now phone).Blameless := by
  apply Action.Blameless.bind (.change _)
  intro attempts
  dsimp only
  split
  · exact .bind (.change _) fun _ => .pure attempts
  · exact .pure attempts

end Lockout

namespace Authentication

/-- Issuing the tokens of a session fails for the settings or the clock, if it does. -/
theorem avoids_session {kind : ErrorKind} (hkind : kind ≠ .internal)
    {access : Except Error Duration} {c : Settings} {clocks : Clocks} {random : Bytes} {a : Account}
    {k : TokenPair → Instant → Action α} (haccess : ∀ e, access = .error e → e.kind = .internal)
    (hk : ∀ pair t, (k pair t).Avoids kind) :
    (do
      let pair ← issuePair c.secret clocks.wall random a (← access)
      let expiresAt ← expiry clocks.service (← c.refreshLifetime)
      k pair expiresAt : Action α).Avoids kind := by
  have hinternal {β : Type} {x : Except Error β} (hx : ∀ e, x = .error e → e.kind = .internal) :
      (liftM x : Action β).Avoids kind := .liftM fun e he => by
    rw [hx e he]
    exact hkind.symm
  exact .bind (hinternal haccess) fun _ => .bind (hinternal fun _ => kind_of_issuePair) fun pair =>
    .bind (hinternal fun _ => Settings.kind_of_lifetime) fun _ =>
    .bind (hinternal fun _ => kind_of_expiry) fun t => hk pair t

theorem checked_register (wall : Instant) (id : Uuid) (salt : Bytes) (r : Registration) :
    (registerProgram wall id salt r).Checked (errorOf (Registration.validate r)) :=
  .check fun _ => .bind (.call (.query _)) fun _ =>
    .guarded nofun (.bind (Store.avoids_insertAccount (by decide) _ _) fun _ => .pure _)

theorem checked_login (c : Settings) (clocks : Clocks) (random : Bytes) (phone password : String) :
    (loginProgram c clocks random phone password).Checked
      (if Phone.normalize phone = "" ∨ password = "" then
        some (.validation "phone and password are required")
      else errorOf (Phone.validate (Phone.normalize phone))) := by
  refine .guarded <| .check fun _ => .bind (Lockout.checked_check _ _) fun _ =>
    .bind (.query _) fun found => ?_
  cases found with
  | none => exact .bind (.map _ (Lockout.blameless_recordFailure _ _)) fun _ => .throw nofun
  | some account =>
    exact avoids_session (by decide) (fun _ => Settings.kind_of_lifetime) fun _ _ =>
      .bind (Store.avoids_saveRefresh (by decide) _ _) fun _ => .pure _

theorem checked_refresh (c : Settings) (clocks : Clocks) (random : Bytes) (token : String) :
    (refreshProgram c clocks random token).Checked
      (if token = "" then some (.validation "refresh token is required") else none) :=
  .guarded <| .bind (.call (.query _)) fun _ => .bind (.found nofun) fun _ =>
    .bind (.query _) fun _ => .bind (.found nofun) fun _ =>
    avoids_session (by decide) (fun _ => Settings.kind_of_lifetime) fun _ _ =>
      .bind (.change (by decide) _) fun _ => .bind (.require nofun) fun _ => .pure _

theorem checked_logout (token : String) :
    (logoutProgram token).Checked
      (if token = "" then some (.validation "refresh token is required") else none) :=
  .guarded <| .bind (.call (.change _)) fun _ => .require nofun

end Authentication

namespace Profiles

theorem checked_get (id : Uuid) : (getProgram id).Checked none :=
  .bind (.call (.query _)) fun _ => .found nofun

theorem checked_edit (wall : Instant) (salt : Bytes) (id : Uuid) (phone password : String) :
    (editProgram wall salt id phone password).Checked
      ((errorOf (Phone.validate (Phone.normalize phone))).or
        (errorOf (Password.validate password))) :=
  .check_or fun _ => .check fun _ =>
    .bind (.call (Store.avoids_updateCredentials (by decide) _ _ _ _)) fun _ =>
    .bind (.require nofun) fun _ => .bind (.query _) fun _ => .found nofun

theorem checked_rights (id : Uuid) : (rightsProgram id).Checked none :=
  .bind (.call (.query _)) fun _ => .found nofun

end Profiles

namespace Grants

variable (user : Uuid) (q : Rights.Request)

theorem checked_grant : (grantProgram user q).Checked (errorOf (Rights.parseCompact q)) := by
  refine .check fun r => .bind (.call (.change _)) fun _ =>
    .ite (.pure r) (.bind (.query _) fun held => ?_)
  cases held
  · exact .throw nofun
  · exact .throw nofun

theorem checked_edit : (editProgram user q).Checked (errorOf (Rights.parseCompact q)) :=
  .check fun r => .bind (.call (.change _)) fun _ => .bind (.require nofun) fun _ => .pure r

theorem checked_revoke : (revokeProgram user q).Checked (errorOf (Rights.parse q)) := by
  refine .check fun revoked => .call (Store.avoids_updateRights (by decide) _ fun own e he => ?_)
  rw [Rights.kind_of_revoke he]
  nofun

theorem checked_assign (role : Uuid) (merge : Bool) :
    (assignProgram user role merge).Checked none :=
  .bind (.call (.query _)) fun _ => .bind (.found nofun) fun _ =>
    Store.avoids_updateRights (by decide) _ fun _ _ h => by cases h

end Grants

namespace Roles

theorem checked_add (id : Uuid) (q : RoleRequest) :
    (addProgram id q).Checked (errorOf (q.validate id)) :=
  .check fun r => .bind (.call (Store.avoids_insertRole (by decide) r)) fun _ => .pure r

theorem checked_edit (id : Uuid) (q : RoleRequest) :
    (editProgram id q).Checked (errorOf (q.validate id)) :=
  .check fun r => .bind (.call (Store.avoids_updateRole (by decide) r)) fun _ =>
    .bind (.require nofun) fun _ => .pure r

theorem checked_delete (id : Uuid) : (deleteProgram id).Checked none :=
  .bind (.call (.change _)) fun _ => .require nofun

theorem checked_list : listProgram.Checked none := .call (.query _)

theorem checked_rights (id : Uuid) : (rightsProgram id).Checked none :=
  .bind (.call (.query _)) fun _ => .found nofun

end Roles

namespace Scoping

theorem checked_get (user : Uuid) : (getProgram user).Checked none :=
  .bind (.call (.query _)) fun _ => .pure _

theorem checked_add_global (user : Uuid) (merchant : Option String) :
    (addProgram user merchant true).Checked none :=
  .ite (fun _ => .bind (.call (Store.avoids_setGlobal (by decide) user true)) fun _ =>
    .bind (.query _) fun _ => .pure _) nofun

theorem checked_add_merchant (user : Uuid) (merchant : Option String) :
    (addProgram user merchant false).Checked
      (if Merchant.validId (Text.trim (merchant.getD "")) then none
      else some (.validation "merchant id is required unless the context is global")) :=
  .ite nofun fun _ => .require <|
    .bind (.call (Store.avoids_addMerchant (by decide) user _)) fun _ =>
    .bind (.query _) fun _ => .pure _

theorem checked_edit (user : Uuid) (isGlobal : Bool) : (editProgram user isGlobal).Checked none :=
  .bind (.call (Store.avoids_setGlobal (by decide) user isGlobal)) fun _ =>
    .bind (.query _) fun _ => .pure _

theorem checked_delete (user : Uuid) (merchant : String) :
    (deleteProgram user merchant).Checked
      (if Text.trim merchant = "" then some (.notFound "user context") else none) :=
  .guarded <| .bind (.call (.change _)) fun _ => .require nofun

theorem checked_deleteAll (user : Uuid) : (deleteAllProgram user).Checked none := .call (.change _)

end Scoping

namespace Operation

/-- What an operation refuses its input for. -/
def inputError? : Operation → Option Error
  | .register r => errorOf (Authentication.Registration.validate r)
  | .login phone password =>
    if Phone.normalize phone = "" ∨ password = "" then
      some (.validation "phone and password are required")
    else errorOf (Phone.validate (Phone.normalize phone))
  | .refresh token | .logout token =>
    if token = "" then some (.validation "refresh token is required") else none
  | .editUser _ phone password =>
    (errorOf (Phone.validate (Phone.normalize phone))).or (errorOf (Password.validate password))
  | .grant _ q | .editRights _ q => errorOf (Rights.parseCompact q)
  | .revoke _ q => errorOf (Rights.parse q)
  | .addRole q => errorOf (q.validate ⟨0⟩)
  | .editRole id q => errorOf (q.validate id)
  | .addContext _ _ true => none
  | .addContext _ merchant false =>
    if Merchant.validId (Text.trim (merchant.getD "")) then none
    else some (.validation "merchant id is required unless the context is global")
  | .deleteContext _ merchant =>
    if Text.trim merchant = "" then some (.notFound "user context") else none
  | .getUser _ | .getUserRights _ | .assign _ _ _ | .deleteRole _ | .getRoles | .getRoleRights _
  | .editContext _ _ | .getContexts _ | .deleteContexts _ => none

/-- Every operation checks its input before its first call, and not later. -/
theorem checked (c : Settings) (now : Circumstances) (o : Operation) :
    (o.program c now).Checked o.inputError? := by
  cases o with
  | register r => exact .map _ (Authentication.checked_register _ _ _ r)
  | login phone password => exact .map _ (Authentication.checked_login c _ _ phone password)
  | refresh token => exact .map _ (Authentication.checked_refresh c _ _ token)
  | logout token => exact .map _ (Authentication.checked_logout token)
  | getUser user => exact .map _ (Profiles.checked_get user)
  | editUser user phone password => exact .map _ (Profiles.checked_edit _ _ user phone password)
  | getUserRights user => exact .map _ (Profiles.checked_rights user)
  | grant user q => exact .map _ (Grants.checked_grant user q)
  | editRights user q => exact .map _ (Grants.checked_edit user q)
  | revoke user q => exact .map _ (Grants.checked_revoke user q)
  | assign user role merge => exact .map _ (Grants.checked_assign user role merge)
  | addRole q =>
    rw [inputError?, q.errorOf_validate ⟨0⟩ now.entropy.id]
    exact .map _ (Roles.checked_add _ q)
  | editRole id q => exact .map _ (Roles.checked_edit id q)
  | deleteRole id => exact .map _ (Roles.checked_delete id)
  | getRoles => exact .map _ Roles.checked_list
  | getRoleRights id => exact .map _ (Roles.checked_rights id)
  | addContext user merchant isGlobal =>
    cases isGlobal with
    | true => exact .map _ (Scoping.checked_add_global user merchant)
    | false => exact .map _ (Scoping.checked_add_merchant user merchant)
  | editContext user isGlobal => exact .map _ (Scoping.checked_edit user isGlobal)
  | getContexts user => exact .map _ (Scoping.checked_get user)
  | deleteContext user merchant => exact .map _ (Scoping.checked_delete user merchant)
  | deleteContexts user => exact .map _ (Scoping.checked_deleteAll user)

variable {o : Operation} {e : Error}

/-- An invalid input is told by its error, whatever the database is, and the database stays. -/
theorem perform_of_inputError (h : o.inputError? = some e) (c : Settings) (now : Circumstances)
    (db : Database) : (o.action c now).perform db = (.error e, db) := by
  have hearly : (o.program c now).early = some (.error e) := by
    rw [(o.checked c now).early, h, Option.map_some]
  have hperform : Sql.Session.perform ((o.program c now).run fun k => Action.call k.onStore) db =
      (.error e, db) := (o.program c now).perform_of_early hearly db
  rw [Program.run_onStore] at hperform
  exact hperform

/-- What an input is refused for says that it is invalid, but for a context without a merchant, of
which there is none. -/
theorem kind_of_inputError (h : o.inputError? = some e) :
    e.kind = .validation ∨ ∃ user merchant, o = .deleteContext user merchant ∧
      Text.trim merchant = "" ∧ e = .notFound "user context" := by
  have hphone {phone : String} (hp : Phone.validate phone = .error e) : e.kind = .validation :=
    (Phone.validate_eq_error_iff.mp hp).2 ▸ rfl
  cases o with
  | register r =>
    obtain ⟨message, rfl⟩ :=
      Authentication.Registration.exists_validation (errorOf_eq_some_iff.mp h)
    exact .inl rfl
  | login phone password =>
    rw [inputError?] at h
    split at h
    next =>
      cases h
      exact .inl rfl
    next => exact .inl (hphone (errorOf_eq_some_iff.mp h))
  | refresh token | logout token =>
    obtain ⟨-, h⟩ := Option.ite_none_right_eq_some.mp h
    cases h
    exact .inl rfl
  | editUser user phone password =>
    rcases Option.or_eq_some_iff.mp h with hp | ⟨-, hp⟩
    · exact .inl (hphone (errorOf_eq_some_iff.mp hp))
    · obtain ⟨message, rfl⟩ := Password.exists_validation (errorOf_eq_some_iff.mp hp)
      exact .inl rfl
  | grant user q | editRights user q =>
    exact .inl (Rights.kind_of_parseCompact (errorOf_eq_some_iff.mp h))
  | revoke user q => exact .inl (Rights.kind_of_parse (errorOf_eq_some_iff.mp h))
  | addRole q | editRole id q =>
    exact .inl (RoleRequest.kind_of_validate (errorOf_eq_some_iff.mp h))
  | addContext user merchant isGlobal =>
    cases isGlobal with
    | true => cases h
    | false =>
      rw [inputError?] at h
      obtain ⟨-, h⟩ := Option.ite_none_left_eq_some.mp h
      cases h
      exact .inl rfl
  | deleteContext user merchant =>
    obtain ⟨hblank, h⟩ := Option.ite_none_right_eq_some.mp h
    cases h
    exact .inr ⟨user, merchant, rfl, hblank, rfl⟩
  | _ => cases h

end Operation

end Turnstile

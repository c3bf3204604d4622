import Turnstile.Proofs.Accounts
import Turnstile.Proofs.Administration
import Turnstile.Proofs.Runs
import Turnstile.Proofs.Uniqueness

/-! Everything an operation can do to a store that answers. It succeeds with one effect, or is refused
and leaves the store as it was; only a login that is refused after its lock check has something to
write in the ledger. -/
namespace Turnstile

open Authentication (Examined checked identify? session)

/-- The effect of an operation that succeeds: its answer, the store it leaves, and what it has found
in the store before. -/
inductive Effect (c : Settings) (now : Circumstances) (s : Store) :
    Operation → Reply → Store → Prop where
  | register (r : Registration)
      (hfree : s.accountExists (Phone.normalize r.phone) (Email.normalize r.email) = false) :
      Effect c now s (.register r) (.registered now.entropy.id)
        { s with accounts := s.accounts.insert now.entropy.id (r.record now) }
  | login (spelling password : String) (a : Account) (pair : TokenPair) (g : RefreshGrant)
      (hx : Examined now.clocks.service spelling password s)
      (hfound : s.accountByPhone? (Phone.normalize spelling) = some a) (hmem : a.id ∈ s.accounts)
      (hs : session c now.clocks now.entropy.token c.accessLifetime a = .ok (pair, g)) :
      Effect c now s (.login spelling password) (.tokens pair)
        ((checked now.clocks.service spelling s).modifyAccount a.id fun r =>
          { r with refresh := some g })
  | refresh (token : String) (a : Account) (held g : RefreshGrant) (pair : TokenPair)
      (hheld : s.grant? a.id = some held) (hdigest : held.digest = Token.Refresh.digest token)
      (hs : session c now.clocks now.entropy.token c.grantLifetime a = .ok (pair, g)) :
      Effect c now s (.refresh token) (.tokens pair)
        (s.modifyAccount a.id fun r => { r with refresh := some g })
  | logout (token : String) (owner : Uuid) (held : RefreshGrant) (hheld : s.grant? owner = some held)
      (hdigest : held.digest = Token.Refresh.digest token) :
      Effect c now s (.logout token) .done
        (s.modifyAccount owner fun r => { r with refresh := none })
  | editUser (user : Uuid) (phone password : String) (p : Profile) (hmem : user ∈ s.accounts)
      (hfree : s.phoneTakenByOther (Phone.normalize phone) user = false) :
      Effect c now s (.editUser user phone password) (.profile p)
        (s.modifyAccount user fun r => { r with account :=
          { r.account with
            phone := Phone.normalize phone
            passwordHash := Password.hash now.entropy.salt password
            updatedAt := now.clocks.wall } })
  | grant (user : Uuid) (q : Rights.Request) (r own : Rights) (hq : Rights.parseCompact q = .ok r)
      (hown : s.rights? user = some own) (hnone : own.isEmpty = true) :
      Effect c now s (.grant user q) (.rights r)
        (s.modifyAccount user fun a => { a with rights := r })
  | editRights (user : Uuid) (q : Rights.Request) (r : Rights) (hq : Rights.parseCompact q = .ok r)
      (hmem : user ∈ s.accounts) :
      Effect c now s (.editRights user q) (.rights r)
        (s.modifyAccount user fun a => { a with rights := r })
  | revoke (user : Uuid) (q : Rights.Request) (own revoked left : Rights)
      (hown : s.rights? user = some own) (hleft : own.revoke revoked = .ok left) :
      Effect c now s (.revoke user q) (.rights left)
        (s.modifyAccount user fun a => { a with rights := left })
  | assign (user role : Uuid) (merge : Bool) (own : Rights) (r : Role)
      (hown : s.rights? user = some own) (hrole : s.role? role = some r) :
      Effect c now s (.assign user role merge)
        (.rights (if merge then own.merge r.rights else r.rights))
        (s.modifyAccount user fun a =>
          { a with rights := if merge then own.merge r.rights else r.rights })
  | addRole (q : RoleRequest) (r : Role) (hq : q.validate now.entropy.id = .ok r) :
      Effect c now s (.addRole q) (.role r) { s with roles := s.roles.insert r.id r }
  | editRole (id : Uuid) (q : RoleRequest) (r : Role) (hq : q.validate id = .ok r)
      (hmem : id ∈ s.roles) :
      Effect c now s (.editRole id q) (.role r) { s with roles := s.roles.insert r.id r }
  | deleteRole (id : Uuid) (hmem : id ∈ s.roles) :
      Effect c now s (.deleteRole id) .done { s with roles := s.roles.erase id }
  | addGlobal (user : Uuid) (merchant : Option String) (reply : Reply) (hmem : user ∈ s.accounts) :
      Effect c now s (.addContext user merchant true) reply
        { s with contexts := (s.dropContexts user).contexts.insert (user, "") true }
  | addMerchant (user : Uuid) (merchant : Option String) (reply : Reply)
      (hmem : user ∈ s.accounts)
      (hvalid : Merchant.validId (Text.trim (merchant.getD "")) = true) :
      Effect c now s (.addContext user merchant false) reply
        { s with contexts := (s.contexts.erase (user, "")).insert
                  (user, Text.trim (merchant.getD "")) false }
  | beGlobal (user : Uuid) (reply : Reply) (hmem : user ∈ s.accounts) :
      Effect c now s (.editContext user true) reply
        { s with contexts := (s.dropContexts user).contexts.insert (user, "") true }
  | ceaseGlobal (user : Uuid) (reply : Reply) (hmem : user ∈ s.accounts) :
      Effect c now s (.editContext user false) reply
        { s with contexts := s.contexts.erase (user, "") }
  | deleteContext (user : Uuid) (merchant : String)
      (hmem : (user, Text.trim merchant) ∈ s.contexts) :
      Effect c now s (.deleteContext user merchant) .done
        { s with contexts := s.contexts.erase (user, Text.trim merchant) }
  | deleteContexts (user : Uuid) :
      Effect c now s (.deleteContexts user) (.removed (s.contextRows user).length)
        (s.dropContexts user)
  | read (o : Operation) (reply : Reply) (ho : o.parts = []) : Effect c now s o reply s

/-- Accounts are added by registrations only, and never go. -/
theorem Effect.mem_accounts_iff {c : Settings} {now : Circumstances} {s s' : Store} {o : Operation}
    {reply : Reply} (h : Effect c now s o reply s') (user : Uuid) :
    user ∈ s'.accounts ↔
      user ∈ s.accounts ∨ (∃ r, o = .register r) ∧ reply = .registered user := by
  cases h with
  | register r =>
    rw [Std.ExtTreeMap.mem_insert, Std.LawfulEqCmp.compare_eq_iff_eq, or_comm]
    simp
  | login | refresh | logout | editUser | grant | editRights | revoke | assign =>
    refine Std.ExtTreeMap.mem_modify.trans ?_
    simp [Authentication.checked, Store.alterLedger]
  | deleteContexts => simp [Store.dropContexts]
  | read _ _ ho =>
    have hother : ¬ ∃ r, o = .register r := by
      rintro ⟨r, rfl⟩
      cases ho
    simp [hother]
  | _ => simp

/-- All ways an operation can end. -/
inductive Outcome (c : Settings) (now : Circumstances) (s : Store) (o : Operation) :
    Except Error Reply → Store → Prop where
  | done {reply : Reply} {s' : Store} (h : Effect c now s o reply s') :
      Outcome c now s o (.ok reply) s'
  | refused (e : Error)
      (he : ∀ spelling password, o = .login spelling password → e ≠ .invalidCredentials) :
      Outcome c now s o (.error e) s
  | unissued {spelling password : String} (ho : o = .login spelling password) (e : Error)
      (hx : Examined now.clocks.service spelling password s) (he : e ≠ .invalidCredentials) :
      Outcome c now s o (.error e) (checked now.clocks.service spelling s)
  | failed {spelling password : String} (ho : o = .login spelling password)
      (hx : Examined now.clocks.service spelling password s) :
      Outcome c now s o (.error .invalidCredentials)
        ((checked now.clocks.service spelling s).alterLedger (Phone.normalize spelling)
          (some ∘ Lockout.charge now.clocks.service (Phone.normalize spelling)))

namespace Outcome

variable (c : Settings) (now : Circumstances) (s : Store)

/-- The operation ends in one of these ways. -/
def Reached (o : Operation) : Prop :=
  ∃ answer s', Event.answer c ⟨now, o⟩ (.ready s) = (answer, .ready s') ∧
    Outcome c now s o answer s'

variable {c now s}

theorem Reached.refused {o : Operation} {e : Error}
    (h : Event.answer c ⟨now, o⟩ (.ready s) = (.error e, .ready s))
    (he : ∀ spelling password, o = .login spelling password → e ≠ .invalidCredentials) :
    Reached c now s o := ⟨_, _, h, .refused e he⟩

theorem Reached.done {o : Operation} {reply : Reply} {s' : Store}
    (h : Event.answer c ⟨now, o⟩ (.ready s) = (.ok reply, .ready s'))
    (heffect : Effect c now s o reply s') : Reached c now s o := ⟨_, _, h, .done heffect⟩

theorem register (r : Registration) : Reached c now s (.register r) := by
  rcases Event.answer_register_cases c now r s with ⟨e, -, h⟩ | ⟨-, ⟨-, h⟩ | ⟨hfree, h⟩⟩
  · exact .refused h nofun
  · exact .refused h nofun
  · exact .done h (.register r hfree)

theorem login (spelling password : String) : Reached c now s (.login spelling password) := by
  have hperform : Event.answer c ⟨now, .login spelling password⟩ (.ready s) = _ :=
    Action.perform_map ..
  obtain ⟨answer, s', ha, ho⟩ := Authentication.login_outcome c now.clocks now.entropy.token
    spelling password s
  rw [ha] at hperform
  cases ho with
  | refused | locked => exact .refused hperform fun _ _ _ => nofun
  | failed hx => exact ⟨_, _, hperform, .failed rfl hx⟩
  | unissued e a hx hi hs =>
    refine ⟨_, _, hperform, .unissued rfl e hx ?_⟩
    rintro rfl
    have hkind := Authentication.kind_of_session
      (fun e he => Settings.kind_of_lifetime he) hs
    cases hkind
  | admitted a pair g hx hi hs =>
    have hfound := (Option.filter_eq_some_iff.mp hi).1
    by_cases hmem : a.id ∈ (checked now.clocks.service spelling s).accounts
    · rw [Store.saveRefresh_eq hmem] at hperform
      exact .done hperform (.login spelling password a pair g hx hfound hmem hs)
    · have hsave : (checked now.clocks.service spelling s).saveRefresh a.id g =
          (.error (.notFound "user"), _) := if_neg hmem
      rw [hsave] at hperform
      exact ⟨_, _, hperform, .unissued rfl _ hx (by simp)⟩

theorem refresh (token : String) : Reached c now s (.refresh token) := by
  have hperform : Event.answer c ⟨now, .refresh token⟩ (.ready s) = _ := Action.perform_map ..
  by_cases hempty : token = ""
  · subst hempty
    exact .refused hperform nofun
  rw [Authentication.perform_refresh_ready hempty] at hperform
  split at hperform
  next => exact .refused hperform nofun
  next a _ =>
    split at hperform
    next => exact .refused hperform nofun
    next pair g hs =>
      rw [Store.rotateRefresh_eq] at hperform
      by_cases hholds : ((s.grant? a.id).any (·.digest = Token.Refresh.digest token)) = true
      · rw [if_pos hholds] at hperform
        obtain ⟨held, hheld, hdigest⟩ := (Option.any_eq_true _ _).mp hholds
        exact .done hperform (.refresh token a held g pair hheld (of_decide_eq_true hdigest) hs)
      · rw [if_neg hholds] at hperform
        exact .refused hperform nofun

theorem logout (token : String) : Reached c now s (.logout token) := by
  have hperform : Event.answer c ⟨now, .logout token⟩ (.ready s) = _ := Action.perform_map ..
  by_cases hempty : token = ""
  · subst hempty
    exact .refused hperform nofun
  rw [Authentication.perform_logout_ready hempty] at hperform
  rcases s.revokeRefresh_cases (Token.Refresh.digest token) with
    ⟨owner, held, hheld, hdigest, hrevoke⟩ | ⟨-, hrevoke⟩
  · rw [hrevoke] at hperform
    exact .done hperform (.logout token owner held hheld hdigest)
  · rw [hrevoke] at hperform
    exact .refused hperform nofun

theorem editUser (user : Uuid) (phone password : String) :
    Reached c now s (.editUser user phone password) := by
  have hperform : Event.answer c ⟨now, .editUser user phone password⟩ (.ready s) = _ :=
    Action.perform_map ..
  rw [Profiles.perform_edit_ready] at hperform
  split at hperform
  next => exact .refused hperform nofun
  next => exact .refused hperform nofun
  next =>
    cases htaken : s.phoneTakenByOther (Phone.normalize phone) user with
    | true =>
      have hupdate (hash : String) (wall : Instant) : s.updateCredentials user
          (Phone.normalize phone) hash wall = (.error (.conflict "phone already in use"), s) :=
        if_pos htaken
      rw [hupdate] at hperform
      exact .refused hperform nofun
    | false =>
      simp only [Store.updateCredentials, htaken, Bool.false_eq_true, if_false] at hperform
      by_cases hmem : user ∈ s.accounts
      · rw [if_pos hmem] at hperform
        obtain ⟨r, hr⟩ := Store.exists_record hmem
        simp only [Store.account?, Store.modifyAccount_get, hr, if_true, Option.map_some] at hperform
        exact .done hperform (.editUser user phone password _ hmem htaken)
      · rw [if_neg hmem] at hperform
        exact .refused hperform nofun

theorem grant (user : Uuid) (q : Rights.Request) : Reached c now s (.grant user q) := by
  have hperform : Event.answer c ⟨now, .grant user q⟩ (.ready s) = _ := Action.perform_map ..
  rw [Grants.perform_grant_ready] at hperform
  split at hperform
  next => exact .refused hperform nofun
  next r hq =>
    split at hperform
    next => exact .refused hperform nofun
    next own hown =>
      split at hperform
      next hnone => exact .done hperform (.grant user q r own hq hown hnone)
      next => exact .refused hperform nofun

theorem editRights (user : Uuid) (q : Rights.Request) : Reached c now s (.editRights user q) := by
  have hperform : Event.answer c ⟨now, .editRights user q⟩ (.ready s) = _ := Action.perform_map ..
  rw [Grants.perform_edit_ready] at hperform
  split at hperform
  next => exact .refused hperform nofun
  next r hq =>
    split at hperform
    next hmem => exact .done hperform (.editRights user q r hq hmem)
    next => exact .refused hperform nofun

theorem revoke (user : Uuid) (q : Rights.Request) : Reached c now s (.revoke user q) := by
  have hperform : Event.answer c ⟨now, .revoke user q⟩ (.ready s) = _ := Action.perform_map ..
  rw [Grants.perform_revoke_ready] at hperform
  split at hperform
  next => exact .refused hperform nofun
  next revoked _ =>
    cases hown : s.rights? user with
    | none =>
      simp only [Store.updateRights, hown] at hperform
      exact .refused hperform nofun
    | some own =>
      cases hleft : own.revoke revoked with
      | error e =>
        simp only [Store.updateRights, hown, hleft] at hperform
        exact .refused hperform nofun
      | ok left =>
        simp only [Store.updateRights, hown, hleft] at hperform
        exact .done hperform (.revoke user q own revoked left hown hleft)

theorem assign (user role : Uuid) (merge : Bool) : Reached c now s (.assign user role merge) := by
  have hperform : Event.answer c ⟨now, .assign user role merge⟩ (.ready s) = _ :=
    Action.perform_map ..
  rw [Grants.perform_assign_ready] at hperform
  split at hperform
  next => exact .refused hperform nofun
  next r hrole =>
    cases hown : s.rights? user with
    | none =>
      simp only [Store.updateRights, hown] at hperform
      exact .refused hperform nofun
    | some own =>
      simp only [Store.updateRights, hown] at hperform
      exact .done hperform (.assign user role merge own r hown hrole)

theorem addRole (q : RoleRequest) : Reached c now s (.addRole q) := by
  have hperform : Event.answer c ⟨now, .addRole q⟩ (.ready s) = _ := Action.perform_map ..
  rw [Roles.perform_add_ready] at hperform
  split at hperform
  next => exact .refused hperform nofun
  next r hq =>
    cases htaken : s.roleNameTaken r with
    | true =>
      simp only [Store.insertRole, htaken, if_true] at hperform
      exact .refused hperform nofun
    | false =>
      simp only [Store.insertRole, htaken, Bool.false_eq_true, if_false] at hperform
      exact .done hperform (.addRole q r hq)

theorem editRole (id : Uuid) (q : RoleRequest) : Reached c now s (.editRole id q) := by
  have hperform : Event.answer c ⟨now, .editRole id q⟩ (.ready s) = _ := Action.perform_map ..
  rw [Roles.perform_edit_ready] at hperform
  split at hperform
  next => exact .refused hperform nofun
  next r hq =>
    by_cases hmem : r.id ∈ s.roles
    · cases htaken : s.roleNameTaken r with
      | true =>
        simp only [Store.updateRole, hmem, htaken, if_true] at hperform
        exact .refused hperform nofun
      | false =>
        simp only [Store.updateRole, hmem, htaken, Bool.false_eq_true, if_true,
          if_false] at hperform
        rw [(RoleRequest.of_validate hq).1] at hmem
        exact .done hperform (.editRole id q r hq hmem)
    · simp only [Store.updateRole, hmem, if_false] at hperform
      exact .refused hperform nofun

theorem deleteRole (id : Uuid) : Reached c now s (.deleteRole id) := by
  have hperform : Event.answer c ⟨now, .deleteRole id⟩ (.ready s) = _ := Action.perform_map ..
  rw [Roles.perform_delete_ready] at hperform
  by_cases hmem : id ∈ s.roles
  · rw [if_pos hmem] at hperform
    exact .done hperform (.deleteRole id hmem)
  · rw [if_neg hmem, erase_eq_of_notMem hmem] at hperform
    exact .refused hperform nofun

theorem addContext (user : Uuid) (merchant : Option String) (isGlobal : Bool) :
    Reached c now s (.addContext user merchant isGlobal) := by
  have hperform : Event.answer c ⟨now, .addContext user merchant isGlobal⟩ (.ready s) = _ :=
    Action.perform_map ..
  cases isGlobal with
  | true =>
    rw [Scoping.perform_add_global_ready] at hperform
    by_cases hmem : user ∈ s.accounts
    · simp only [Store.setGlobal, hmem, if_true] at hperform
      exact .done hperform (.addGlobal user merchant _ hmem)
    · simp only [Store.setGlobal, hmem, if_false] at hperform
      exact .refused hperform nofun
  | false =>
    rw [Scoping.perform_add_merchant_ready] at hperform
    split at hperform
    next hvalid =>
      by_cases hmem : user ∈ s.accounts
      · simp only [Store.addMerchant, hmem, if_true] at hperform
        exact .done hperform (.addMerchant user merchant _ hmem hvalid)
      · simp only [Store.addMerchant, hmem, if_false] at hperform
        exact .refused hperform nofun
    next => exact .refused hperform nofun

theorem editContext (user : Uuid) (isGlobal : Bool) :
    Reached c now s (.editContext user isGlobal) := by
  have hperform : Event.answer c ⟨now, .editContext user isGlobal⟩ (.ready s) = _ :=
    Action.perform_map ..
  rw [Scoping.perform_edit_ready] at hperform
  by_cases hmem : user ∈ s.accounts
  · simp only [Store.setGlobal, hmem, if_true] at hperform
    cases isGlobal with
    | true => exact .done hperform (.beGlobal user _ hmem)
    | false => exact .done hperform (.ceaseGlobal user _ hmem)
  · simp only [Store.setGlobal, hmem, if_false] at hperform
    exact .refused hperform nofun

theorem deleteContext (user : Uuid) (merchant : String) :
    Reached c now s (.deleteContext user merchant) := by
  have hperform : Event.answer c ⟨now, .deleteContext user merchant⟩ (.ready s) = _ :=
    Action.perform_map ..
  rw [Scoping.perform_delete_ready] at hperform
  split at hperform
  next => exact .refused hperform nofun
  next =>
    by_cases hmem : (user, Text.trim merchant) ∈ s.contexts
    · rw [if_pos hmem] at hperform
      exact .done hperform (.deleteContext user merchant hmem)
    · rw [if_neg hmem, erase_eq_of_notMem hmem] at hperform
      exact .refused hperform nofun

theorem deleteContexts (user : Uuid) : Reached c now s (.deleteContexts user) :=
  .done (Action.perform_map ..) (.deleteContexts user)

/-- An operation that writes no part of the store leaves it as it was. -/
theorem read {o : Operation} (ho : o.parts = []) : Reached c now s o := by
  obtain ⟨s', hs'⟩ := Event.exists_ready c ⟨now, o⟩ s
  have hview : id s' = id s := Event.view_eq hs' (by simp [ho])
  obtain rfl : s' = s := hview
  cases hanswer : (Event.answer c ⟨now, o⟩ (.ready s')).1 with
  | error e =>
    refine .refused (Prod.ext hanswer hs') ?_
    rintro _ _ rfl
    cases ho
  | ok reply => exact .done (Prod.ext hanswer hs') (.read o reply ho)

/-- Every operation on a store that answers ends in one of the ways told. -/
theorem reached (c : Settings) (now : Circumstances) (s : Store) (o : Operation) :
    Reached c now s o := by
  cases o with
  | register r => exact register r
  | login spelling password => exact login spelling password
  | refresh token => exact refresh token
  | logout token => exact logout token
  | editUser user phone password => exact editUser user phone password
  | grant user q => exact grant user q
  | editRights user q => exact editRights user q
  | revoke user q => exact revoke user q
  | assign user role merge => exact assign user role merge
  | addRole q => exact addRole q
  | editRole id q => exact editRole id q
  | deleteRole id => exact deleteRole id
  | addContext user merchant isGlobal => exact addContext user merchant isGlobal
  | editContext user isGlobal => exact editContext user isGlobal
  | deleteContext user merchant => exact deleteContext user merchant
  | deleteContexts user => exact deleteContexts user
  | getUser | getUserRights | getRoles | getRoleRights | getContexts => exact read rfl

theorem mem_accounts_iff {s' : Store} {o : Operation} {answer : Except Error Reply}
    (h : Outcome c now s o answer s') (user : Uuid) :
    user ∈ s'.accounts ↔
      user ∈ s.accounts ∨ (∃ r, o = .register r) ∧ answer = .ok (.registered user) := by
  cases h with
  | done he => rw [he.mem_accounts_iff, Except.ok.injEq]
  | refused => simp
  | unissued | failed => simp [Authentication.checked, Store.alterLedger]

end Outcome

end Turnstile

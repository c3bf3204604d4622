import Turnstile.Operation
import Turnstile.Proofs.Actions
import Turnstile.Store.Sql

/-! Operations as programs of store calls. A program says, of one action, which calls it makes in
which order and what it does in between, so that the same operation can be run on a store in a
database. -/
namespace Turnstile

variable {σ α β : Type}

/-- The action is made up of store calls and of steps that need no store. -/
inductive Program : {α : Type} → Action α → Type 1 where
  | known {α : Type} {a : Action α} (x : Except Error α) (h : ∀ db, a.perform db = (x, db)) :
      Program a
  | call {α : Type} (k : StoreCall α) : Program (Action.call k.onStore)
  | map {α β : Type} (f : α → β) {a : Action α} (p : Program a) : Program (f <$> a)
  | bind {α β : Type} {a : Action α} {f : α → Action β} (p : Program a)
      (q : ∀ x, Program (f x)) : Program (a >>= f)
  | ite {α : Type} (c : Prop) (d : Decidable c) {a b : Action α} (p : Program a) (q : Program b) :
      Program (if c then a else b)
  | ofEq {α : Type} {a b : Action α} (h : a = b) (p : Program a) : Program b

namespace Program

def pure (x : α) : Program (Pure.pure x : Action α) := .known (.ok x) fun _ => rfl

def throw (e : Error) : Program (MonadExcept.throw e : Action α) := .known (.error e) fun _ => rfl

def lift (x : Except Error α) : Program (liftM x : Action α) := .known x (Action.perform_liftM x)

def found (e : Error) (o : Option α) : Program (Action.found e o) :=
  .known (o.elim (.error e) .ok) (Action.perform_found e o)

def require (holds : Bool) (e : Error) : Program (Action.require holds e) :=
  .known (if holds then .ok () else .error e) (Action.perform_require holds e)

/-- A program after a refusal that may come before it. -/
def guarded {c : Prop} [Decidable c] (e : Error) {a : Action α} (p : Program a) :
    Program (if c then (MonadExcept.throw e : Action Unit) >>= fun _ => a else a) :=
  .ite c _ (.bind (throw e) fun _ => p) p

/-- What the program comes to without a call, if it makes none on its way there. -/
def early : {α : Type} → {a : Action α} → Program a → Option (Except Error α)
  | _, _, .known x _ => some x
  | _, _, .call _ => none
  | _, _, .map f p => p.early.map (Except.map f)
  | _, _, .bind p q =>
    match p.early with
    | none => none
    | some (.error e) => some (.error e)
    | some (.ok x) => (q x).early
  | _, _, .ite c d p q => if c then p.early else q.early
  | _, _, .ofEq _ p => p.early

/-- The program with its calls put to something that answers them. -/
def run (answer : {β : Type} → StoreCall β → Sql.Session σ β) :
    {α : Type} → {a : Action α} → Program a → Sql.Session σ α
  | _, _, .known x _ => liftM x
  | _, _, .call k => answer k
  | _, _, .map f p => f <$> p.run answer
  | _, _, .bind p q => p.run answer >>= fun x => (q x).run answer
  | _, _, .ite c d p q => if c then p.run answer else q.run answer
  | _, _, .ofEq _ p => p.run answer

variable {a : Action α}

/-- With its calls put to the store in memory, the program is the action. -/
theorem run_onStore (p : Program a) : p.run (fun k => Action.call k.onStore) = a := by
  induction p with
  | known x h =>
    funext db
    exact (Action.perform_liftM x db).trans (h db).symm
  | call k => rfl
  | map f p ih => exact congrArg (f <$> ·) ih
  | bind p q ihp ihq =>
    unfold run
    rw [ihp]
    congr 1
    funext x
    exact ihq x
  | ite c d p q ihp ihq =>
    unfold run
    rw [ihp, ihq]
  | ofEq h p ih => exact ih.trans h

variable {answer : {β : Type} → StoreCall β → Sql.Session σ β}

/-- What comes before the first call is the same whoever answers, and changes nothing. -/
theorem perform_of_early (p : Program a) {x : Except Error α} (h : p.early = some x) (db : σ) :
    (p.run answer).perform db = (x, db) := by
  induction p with
  | known y _ =>
    cases h
    exact Sql.Session.perform_liftM y db
  | call k => cases h
  | map f p ih =>
    obtain ⟨y, hy, rfl⟩ := Option.map_eq_some_iff.mp h
    unfold run
    rw [Sql.Session.perform_map, ih hy]
  | bind p q ihp ihq =>
    unfold early at h
    unfold run
    rw [Sql.Session.perform_bind]
    split at h
    next => cases h
    next e he =>
      cases h
      rw [ihp he]
    next y hy =>
      rw [ihp hy]
      exact ihq y h
  | ite c d p q ihp ihq =>
    unfold early at h
    unfold run
    split at h
    next hc => rw [if_pos hc, ihp h]
    next hc => rw [if_neg hc, ihq h]
  | ofEq _ p ih => exact ih h

/-- If all calls fail alike in some states and do not leave them, so does every program that comes to
a call. -/
theorem fails_of_early {e : Error} {P : σ → Prop}
    (hcall : ∀ {β : Type} (k : StoreCall β) db, P db →
      ((answer k).perform db).1 = .error e ∧ P ((answer k).perform db).2)
    (p : Program a) (h : p.early = none) {db : σ} (hdb : P db) :
    ((p.run answer).perform db).1 = .error e ∧ P ((p.run answer).perform db).2 := by
  induction p with
  | known => cases h
  | call k => exact hcall k db hdb
  | map f p ih =>
    obtain ⟨he, hP⟩ := ih (Option.map_eq_none_iff.mp h)
    unfold run
    rw [Sql.Session.perform_map, he]
    exact ⟨rfl, hP⟩
  | bind p q ihp ihq =>
    unfold early at h
    unfold run
    rw [Sql.Session.perform_bind]
    split at h
    next hp =>
      obtain ⟨he, hP⟩ := ihp hp
      rw [he]
      exact ⟨rfl, hP⟩
    next => cases h
    next y hy =>
      rw [p.perform_of_early hy]
      exact ihq y h
  | ite c d p q ihp ihq =>
    unfold early at h
    unfold run
    split at h
    next hc =>
      rw [if_pos hc]
      exact ihp h
    next hc =>
      rw [if_neg hc]
      exact ihq h
  | ofEq _ p ih => exact ih h

end Program

namespace Lockout

def checkProgram (now : Instant) (phone : String) : Program (check now phone) :=
  .bind (.call (.failedLogins phone)) fun
    | none => .pure ()
    | some r => by
      dsimp only
      exact match FailedLogins.verdict r now with
        | .locked seconds => .throw (.locked seconds)
        | .purge => .call (.purgeFailures phone)
        | .clear => .call (.setBlocked phone none)
        | .free => .pure ()

def recordFailureProgram (now : Instant) (phone : String) : Program (recordFailure now phone) :=
  .bind (.call (.countFailure phone)) fun attempts =>
    match lockSeconds? attempts with
    | some seconds =>
      .bind (.call (.setBlocked phone (some (now.after (.ofSeconds seconds))))) fun _ =>
        .pure attempts
    | none => .pure attempts

end Lockout

namespace Authentication

def registerProgram (wall : Instant) (id : Uuid) (salt : Bytes) (r : Registration) :
    Program (register wall id salt r) :=
  .bind (.lift _) fun _ =>
    .bind (.call (.accountExists (Phone.normalize r.phone) (Email.normalize r.email))) fun _ =>
    .guarded _ <| .bind (.call (.insertAccount (Registration.account r id salt) wall)) fun _ =>
    .pure id

theorem query_identify? (phone password : String) :
    (Option.filter fun a => Password.verify password a.passwordHash) <$>
      Action.call (StoreCall.accountByPhone phone).onStore =
    Action.query (identify? · phone password) := by
  funext db
  cases db <;> rfl

def loginProgram (c : Settings) (clocks : Clocks) (random : Bytes) (phone password : String) :
    Program (login c clocks random phone password) :=
  .guarded _ <| .bind (.lift _) fun _ => .bind (Lockout.checkProgram _ _) fun _ =>
    .bind (.ofEq (query_identify? _ password) (.map _ (.call _))) fun
      | none => .bind (.map _ (Lockout.recordFailureProgram _ _)) fun _ => .throw _
      | some account =>
        .bind (.lift _) fun _ => .bind (.lift _) fun pair => .bind (.lift _) fun _ =>
        .bind (.lift _) fun expiresAt =>
        .bind (.call (.saveRefresh account.id ⟨Token.Refresh.digest pair.refresh, expiresAt⟩))
          fun _ => .pure pair

def refreshProgram (c : Settings) (clocks : Clocks) (random : Bytes) (token : String) :
    Program (refresh c clocks random token) :=
  .guarded _ <|
    .bind (.call (.refreshOwner (Token.Refresh.digest token) clocks.service)) fun _ =>
    .bind (.found _ _) fun owner => .bind (.call (.account owner)) fun _ =>
    .bind (.found _ _) fun account => .bind (.lift _) fun _ => .bind (.lift _) fun pair =>
    .bind (.lift _) fun _ => .bind (.lift _) fun expiresAt =>
    .bind (.call (.rotateRefresh account.id (Token.Refresh.digest token)
      ⟨Token.Refresh.digest pair.refresh, expiresAt⟩)) fun _ =>
    .bind (.require _ _) fun _ => .pure pair

def logoutProgram (token : String) : Program (logout token) :=
  .guarded _ <| .bind (.call (.revokeRefresh (Token.Refresh.digest token))) fun _ =>
    .require _ _

end Authentication

namespace Profiles

def getProgram (id : Uuid) : Program (get id) :=
  .bind (.call (.account id)) fun _ => .found _ _

def editProgram (wall : Instant) (salt : Bytes) (id : Uuid) (phone password : String) :
    Program (edit wall salt id phone password) :=
  .bind (.lift _) fun _ => .bind (.lift _) fun _ =>
    .bind (.call (.updateCredentials id (Phone.normalize phone) (Password.hash salt password) wall))
      fun _ => .bind (.require _ _) fun _ => getProgram id

def rightsProgram (id : Uuid) : Program (rights id) :=
  .bind (.call (.rights id)) fun _ => .found _ _

end Profiles

namespace Grants

variable (user : Uuid) (q : Rights.Request)

def grantProgram : Program (grant user q) :=
  .bind (.lift _) fun r => .bind (.call (.grantRights user r)) fun _ =>
    .ite _ _ (.pure r) <| .bind (.call (.rights user)) fun
      | some _ => .throw _
      | none => .throw _

def editProgram : Program (edit user q) :=
  .bind (.lift _) fun r => .bind (.call (.replaceRights user r)) fun _ =>
    .bind (.require _ _) fun _ => .pure r

def revokeProgram : Program (revoke user q) :=
  .bind (.lift _) fun revoked => .call (.updateRights user (Rights.revoke · revoked))

def assignProgram (role : Uuid) (merge : Bool) : Program (assign user role merge) :=
  .bind (.call (.role role)) fun _ => .bind (.found _ _) fun r =>
    .call (.updateRights user fun own => .ok (if merge then own.merge r.rights else r.rights))

end Grants

namespace Roles

def addProgram (id : Uuid) (q : RoleRequest) : Program (add id q) :=
  .bind (.lift _) fun r => .bind (.call (.insertRole r)) fun _ => .pure r

def editProgram (id : Uuid) (q : RoleRequest) : Program (edit id q) :=
  .bind (.lift _) fun r => .bind (.call (.updateRole r)) fun _ =>
    .bind (.require _ _) fun _ => .pure r

def deleteProgram (id : Uuid) : Program (delete id) :=
  .bind (.call (.deleteRole id)) fun _ => .require _ _

def listProgram : Program list := .call .roles

def rightsProgram (id : Uuid) : Program (rights id) :=
  .bind (.call (.role id)) fun _ => .found _ _

end Roles

namespace Scoping

def getProgram (user : Uuid) : Program (get user) :=
  .bind (.call (.contextRows user)) fun _ => .pure _

def addProgram (user : Uuid) (merchant : Option String) (isGlobal : Bool) :
    Program (add user merchant isGlobal) :=
  .ite _ _ (.bind (.call (.setGlobal user true)) fun _ => getProgram user) <|
    .bind (.require _ _) fun _ =>
    .bind (.call (.addMerchant user (Text.trim (merchant.getD "")))) fun _ => getProgram user

def editProgram (user : Uuid) (isGlobal : Bool) : Program (edit user isGlobal) :=
  .bind (.call (.setGlobal user isGlobal)) fun _ => getProgram user

def deleteProgram (user : Uuid) (merchant : String) : Program (delete user merchant) :=
  .guarded _ <| .bind (.call (.deleteMerchant user (Text.trim merchant))) fun _ => .require _ _

def deleteAllProgram (user : Uuid) : Program (deleteAll user) := .call (.deleteContexts user)

end Scoping

namespace Operation

def program (c : Settings) (now : Circumstances) : (o : Operation) → Program (o.action c now)
  | .register r => .map _ (Authentication.registerProgram _ _ _ r)
  | .login phone password => .map _ (Authentication.loginProgram c _ _ phone password)
  | .refresh token => .map _ (Authentication.refreshProgram c _ _ token)
  | .logout token => .map _ (Authentication.logoutProgram token)
  | .getUser user => .map _ (Profiles.getProgram user)
  | .editUser user phone password => .map _ (Profiles.editProgram _ _ user phone password)
  | .getUserRights user => .map _ (Profiles.rightsProgram user)
  | .grant user q => .map _ (Grants.grantProgram user q)
  | .editRights user q => .map _ (Grants.editProgram user q)
  | .revoke user q => .map _ (Grants.revokeProgram user q)
  | .assign user role merge => .map _ (Grants.assignProgram user role merge)
  | .addRole q => .map _ (Roles.addProgram _ q)
  | .editRole id q => .map _ (Roles.editProgram id q)
  | .deleteRole id => .map _ (Roles.deleteProgram id)
  | .getRoles => .map _ Roles.listProgram
  | .getRoleRights id => .map _ (Roles.rightsProgram id)
  | .addContext user merchant isGlobal => .map _ (Scoping.addProgram user merchant isGlobal)
  | .editContext user isGlobal => .map _ (Scoping.editProgram user isGlobal)
  | .getContexts user => .map _ (Scoping.getProgram user)
  | .deleteContext user merchant => .map _ (Scoping.deleteProgram user merchant)
  | .deleteContexts user => .map _ (Scoping.deleteAllProgram user)

end Operation

end Turnstile

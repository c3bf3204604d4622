import Turnstile.Database
import Turnstile.Store.Call

/-!
The store that is kept in a database behind a pool of connections. A call is one statement, or several
in one transaction. A statement that does not run reports a fault: the breach of a constraint is
refused as what it means for the call, and every other fault is an error of the database.
-/

namespace Turnstile.Sql

/-- A role as it is stored, with a name that is not yet known to mean anything. -/
structure RoleRow where
  id : Uuid
  name : String
  localizedName : String
  notes : String
  rights : Rights

def RoleRow.role (r : RoleRow) : Except Error Role :=
  match RoleName.parse r.name with
  | .ok name => .ok ⟨r.id, name, r.localizedName, r.notes, r.rights⟩
  | .error _ => .error (.internal ("stored role has unknown name: " ++ r.name))

/-- A statement that answers rows, by what a row holds. -/
inductive Query : Type → Type where
  | accountExists (phone : String) (email : Option String) : Query Bool
  | accountByPhone (phone : String) : Query Account
  | account (id : Uuid) : Query Account
  | refreshOwner (digest : Bytes) (now : Instant) : Query Uuid
  | failedLogins (phone : String) : Query FailedLogins
  /-- Counts a failure and answers the count, in one statement. -/
  | countFailure (phone : String) : Query Nat
  | rights (id : Uuid) : Query Rights
  /-- Rights that no one else may write before the transaction ends. -/
  | lockRights (id : Uuid) : Query Rights
  | role (id : Uuid) : Query RoleRow
  | roles : Query RoleRow
  | contexts (user : Uuid) : Query ContextRow

/-- A statement that answers how many rows it has written. -/
inductive Command where
  | insertAccount (a : NewAccount)
  | updateCredentials (id : Uuid) (phone passwordHash : String)
  | saveRefresh (id : Uuid) (grant : RefreshGrant)
  | rotateRefresh (id : Uuid) (current : Bytes) (next : RefreshGrant)
  | revokeRefresh (digest : Bytes)
  | setBlocked (phone : String) (til : Option Instant)
  | purgeFailures (phone : String)
  | grantRights (id : Uuid) (r : Rights)
  | replaceRights (id : Uuid) (r : Rights)
  | insertRole (r : Role)
  | updateRole (r : Role)
  | deleteRole (id : Uuid)
  | keepMerchant (user : Uuid) (merchant : String)
  | insertGlobal (user : Uuid)
  | deleteContext (user : Uuid) (merchant : String)
  | deleteContexts (user : Uuid)

inductive Fault where
  /-- The breach of a constraint, by the code that the database reports for its kind. -/
  | violation (code : String)
  | other (f : DatabaseFault)

namespace Fault

def uniqueKey : String := "23505"

def foreignKey : String := "23503"

def toError : Fault → Error
  | violation _ => DatabaseFault.query.toError
  | other f => f.toError

/-- Breaking one kind of constraint has a meaning of its own. -/
def refusal (code : String) (e : Error) : Fault → Error
  | violation c => if c = code then e else toError (.violation c)
  | f => toError f

end Fault

/-- What the requests to a database come to, and what becomes of the database. -/
structure Pool (σ : Type) where
  fetch : {ρ : Type} → Query ρ → σ → Except Fault (List ρ) × σ
  execute : Command → σ → Except Fault Nat × σ
  begin : σ → Except Fault Unit × σ
  commit : σ → Except Fault Unit × σ
  rollback : σ → σ

abbrev Session (σ α : Type) := ExceptT Error (StateM σ) α

namespace Session

variable {σ α β : Type}

/-- What a session answers, and the database it leaves. -/
def perform (t : Session σ α) (db : σ) : Except Error α × σ := t.run.run db

@[simp] theorem perform_liftM (x : Except Error α) (db : σ) :
    (liftM x : Session σ α).perform db = (x, db) := by cases x <;> rfl

theorem perform_bind (t : Session σ α) (f : α → Session σ β) (db : σ) :
    (t >>= f).perform db =
      match (t.perform db).1 with
      | .ok x => (f x).perform (t.perform db).2
      | .error e => (.error e, (t.perform db).2) := by
  simp only [perform, bind, ExceptT.bind, ExceptT.mk, ExceptT.run, StateT.bind, StateT.run]
  rcases h : t db with ⟨r, db'⟩
  cases r <;> rfl

theorem perform_map (f : α → β) (t : Session σ α) (db : σ) :
    (f <$> t).perform db = ((t.perform db).1.map f, (t.perform db).2) := by
  simp only [perform, Functor.map, ExceptT.map, ExceptT.mk, ExceptT.run, bind, StateT.bind,
    StateT.run]
  rcases h : t db with ⟨r, db'⟩
  cases r <;> rfl

end Session

namespace Pool

variable {σ α ρ : Type} (pool : Pool σ)

def request (r : σ → Except Fault α × σ) (toError : Fault → Error) : Session σ α :=
  ExceptT.mk fun db => ((r db).1.mapError toError, (r db).2)

def all (q : Query ρ) : Session σ (List ρ) := request (pool.fetch q) Fault.toError

def first? (q : Query ρ) : Session σ (Option ρ) := List.head? <$> pool.all q

/-- The first of rows that should be there; it is a fault if there is none. -/
def first (q : Query ρ) : Session σ ρ := do
  match ← pool.first? q with
  | some row => return row
  | none => throw DatabaseFault.query.toError

def write (c : Command) (toError : Fault → Error) : Session σ Nat :=
  request (pool.execute c) toError

/-- Tells whether a statement has written its one row. -/
def writesOne (c : Command) (toError : Fault → Error) : Session σ Bool :=
  (· == 1) <$> pool.write c toError

/-- All statements of a body or none of them. -/
def transaction (body : Session σ α) : Session σ α := ExceptT.mk fun db =>
  match pool.begin db with
  | (.error f, db) => (.error f.toError, db)
  | (.ok (), db) =>
    match body.perform db with
    | (.error e, db) => (.error e, pool.rollback db)
    | (.ok a, db) =>
      match pool.commit db with
      | (.error f, db) => (.error f.toError, db)
      | (.ok (), db) => (.ok a, db)

end Pool

end Turnstile.Sql

namespace Turnstile.StoreCall

open Sql

variable {σ α : Type}

/-- The call on a store in a database. Times of writing are the database's own. -/
def onPool (pool : Pool σ) : StoreCall α → Session σ α
  | insertAccount a _ =>
    discard <| pool.write (.insertAccount a)
      (Fault.refusal Fault.uniqueKey (.conflict "user already exists"))
  | accountExists phone email => pool.first (.accountExists phone email)
  | accountByPhone phone => pool.first? (.accountByPhone phone)
  | account id => pool.first? (.account id)
  | updateCredentials id phone hash _ =>
    pool.writesOne (.updateCredentials id phone hash)
      (Fault.refusal Fault.uniqueKey (.conflict "phone already in use"))
  | saveRefresh id grant => do
    let written ← pool.write (.saveRefresh id grant) Fault.toError
    if written = 0 then throw (.notFound "user")
  | refreshOwner digest now => pool.first? (.refreshOwner digest now)
  | rotateRefresh id current next =>
    pool.writesOne (.rotateRefresh id current next) Fault.toError
  | revokeRefresh digest => (0 < ·) <$> pool.write (.revokeRefresh digest) Fault.toError
  | failedLogins phone => pool.first? (.failedLogins phone)
  | countFailure phone => pool.first (.countFailure phone)
  | setBlocked phone til => discard <| pool.write (.setBlocked phone til) Fault.toError
  | purgeFailures phone => discard <| pool.write (.purgeFailures phone) Fault.toError
  | rights id => pool.first? (.rights id)
  | grantRights id r => pool.writesOne (.grantRights id r) Fault.toError
  | replaceRights id r => pool.writesOne (.replaceRights id r) Fault.toError
  | updateRights id change => pool.transaction do
    match ← pool.first? (.lockRights id) with
    | none => throw (.notFound "user")
    | some own =>
      let r ← change own
      discard <| pool.write (.replaceRights id r) Fault.toError
      return r
  | insertRole r =>
    discard <| pool.write (.insertRole r) (Fault.refusal Fault.uniqueKey (Store.roleConflict r))
  | updateRole r =>
    pool.writesOne (.updateRole r) (Fault.refusal Fault.uniqueKey (Store.roleConflict r))
  | deleteRole id => pool.writesOne (.deleteRole id) Fault.toError
  | role id => do
    match ← pool.first? (.role id) with
    | none => return none
    | some row => some <$> row.role
  | roles => do (← pool.all .roles).mapM fun row => row.role
  | addMerchant user merchant => pool.transaction do
    discard <| pool.write (.deleteContext user "") Fault.toError
    discard <| pool.write (.keepMerchant user merchant)
      (Fault.refusal Fault.foreignKey (.notFound "user"))
  | setGlobal user true => pool.transaction do
    discard <| pool.write (.deleteContexts user) Fault.toError
    discard <| pool.write (.insertGlobal user)
      (Fault.refusal Fault.foreignKey (.notFound "user"))
  | setGlobal user false => do
    match ← pool.first? (.account user) with
    | none => throw (.notFound "user")
    | some _ => discard <| pool.write (.deleteContext user "") Fault.toError
  | contextRows user => pool.all (.contexts user)
  | deleteMerchant user merchant => pool.writesOne (.deleteContext user merchant) Fault.toError
  | deleteContexts user => pool.write (.deleteContexts user) Fault.toError

end Turnstile.StoreCall

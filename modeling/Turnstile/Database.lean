import Turnstile.Store.Basic

/-!
The database behind the operations: either it answers from a store, or its connections are closed and
every call on it fails. An action may fail and still leave a changed store behind; what a failed call
itself leaves is said by the call.
-/

namespace Turnstile

inductive Database where
  | ready (store : Store)
  | closed

abbrev Action (α : Type) := ExceptT Error (StateM Database) α

namespace Action

/-- What an action answers, and the database it leaves. -/
def perform (a : Action α) (db : Database) : Except Error α × Database := a.run.run db

/-- A call that may be refused. -/
def call (f : Store → Except Error α × Store) : Action α :=
  ExceptT.mk fun
    | .ready s => ((f s).1, .ready (f s).2)
    | .closed => (.error DatabaseFault.poolClosed.toError, .closed)

def change (f : Store → α × Store) : Action α := call fun s => (.ok (f s).1, (f s).2)

def query (f : Store → α) : Action α := call fun s => (.ok (f s), s)

@[simp] theorem perform_call_ready (f : Store → Except Error α × Store) (s : Store) :
    (call f).perform (.ready s) = ((f s).1, .ready (f s).2) := rfl

@[simp] theorem perform_call_closed (f : Store → Except Error α × Store) :
    (call f).perform .closed = (.error DatabaseFault.poolClosed.toError, .closed) := rfl

@[simp] theorem perform_change_ready (f : Store → α × Store) (s : Store) :
    (change f).perform (.ready s) = (.ok (f s).1, .ready (f s).2) := rfl

@[simp] theorem perform_query_ready (f : Store → α) (s : Store) :
    (query f).perform (.ready s) = (.ok (f s), .ready s) := rfl

@[simp] theorem perform_pure (a : α) (db : Database) :
    (pure a : Action α).perform db = (.ok a, db) := rfl

@[simp] theorem perform_throw (e : Error) (db : Database) :
    (throw e : Action α).perform db = (.error e, db) := rfl

theorem perform_bind (a : Action α) (f : α → Action β) (db : Database) :
    (a >>= f).perform db =
      match (a.perform db).1 with
      | .ok x => (f x).perform (a.perform db).2
      | .error e => (.error e, (a.perform db).2) := by
  simp only [perform, bind, ExceptT.bind, ExceptT.mk, ExceptT.run, StateT.bind, StateT.run]
  rcases h : a db with ⟨r, db'⟩
  cases r <;> rfl

theorem perform_map (f : α → β) (a : Action α) (db : Database) :
    (f <$> a).perform db = ((a.perform db).1.map f, (a.perform db).2) := by
  simp only [perform, Functor.map, ExceptT.map, ExceptT.mk, ExceptT.run, bind, StateT.bind, StateT.run]
  rcases h : a db with ⟨r, db'⟩
  cases r <;> rfl

/-- The value found, or the error for its absence. -/
def found (e : Error) : Option α → Action α
  | some a => pure a
  | none => throw e

/-- A refusal unless the condition holds. -/
def require (holds : Bool) (e : Error) : Action Unit := if holds then pure () else throw e

end Action

end Turnstile

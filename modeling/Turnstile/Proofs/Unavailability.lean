import Turnstile.Proofs.Answers
import Turnstile.Proofs.Inputs

/-! A store that is out of reach. When the pool of connections is closed, a program fails at its first
call, so an operation tells what is wrong with its input or that the store is unavailable, and never
succeeds. -/
namespace Turnstile

namespace Sql

variable {σ α β ρ : Type} {pool : Pool σ}

/-- No connection is to be had for any statement or transaction. -/
structure Pool.Closed (pool : Pool σ) : Prop where
  fetch : ∀ {ρ : Type} (q : Query ρ) db, (pool.fetch q db).1 = .error (.other .poolClosed)
  execute : ∀ c db, (pool.execute c db).1 = .error (.other .poolClosed)
  begin : ∀ db, (pool.begin db).1 = .error (.other .poolClosed)

namespace Session

/-- The session fails for want of a connection. -/
def Unreached (t : Session σ α) : Prop :=
  ∀ db, (t.perform db).1 = .error DatabaseFault.poolClosed.toError

theorem Unreached.bind {t : Session σ α} (ht : t.Unreached) (f : α → Session σ β) :
    (t >>= f).Unreached := by
  intro db
  rw [perform_bind, ht db]

theorem Unreached.map {t : Session σ α} (ht : t.Unreached) (f : α → β) : (f <$> t).Unreached := by
  intro db
  rw [perform_map, ht db]
  rfl

end Session

namespace Pool.Closed

theorem all (h : pool.Closed) (q : Query ρ) : (pool.all q).Unreached := fun db =>
  congrArg (Except.mapError Fault.toError) (h.fetch q db)

theorem first? (h : pool.Closed) (q : Query ρ) : (pool.first? q).Unreached := (h.all q).map _

theorem first (h : pool.Closed) (q : Query ρ) : (pool.first q).Unreached := (h.first? q).bind _

/-- A closed pool breaks no constraint, whatever the breach of one would mean. -/
theorem write (h : pool.Closed) (c : Command) {toError : Fault → Error}
    (htoError : toError (.other .poolClosed) = DatabaseFault.poolClosed.toError) :
    (pool.write c toError).Unreached := fun db => by
  have hwrite := congrArg (Except.mapError toError) (h.execute c db)
  rw [Except.mapError, htoError] at hwrite
  exact hwrite

theorem writesOne (h : pool.Closed) (c : Command) {toError : Fault → Error}
    (htoError : toError (.other .poolClosed) = DatabaseFault.poolClosed.toError) :
    (pool.writesOne c toError).Unreached := (h.write c htoError).map _

theorem transaction (h : pool.Closed) (body : Session σ α) :
    (pool.transaction body).Unreached := by
  intro db
  have hbegin := h.begin db
  unfold Pool.transaction Session.perform
  rcases hb : pool.begin db with ⟨_ | _, db'⟩
  · rw [hb] at hbegin
    cases hbegin
    simp only [ExceptT.run_mk, StateT.run, hb]
    rfl
  · rw [hb] at hbegin
    cases hbegin

end Pool.Closed

end Sql

open Sql

variable {σ α : Type} {pool : Pool σ}

theorem StoreCall.unreached (h : pool.Closed) (k : StoreCall α) : (k.onPool pool).Unreached := by
  cases k with
  | insertAccount a now => exact (h.write _ rfl).map _
  | accountExists | countFailure => exact h.first _
  | accountByPhone | account | refreshOwner | failedLogins | rights => exact h.first? _
  | updateCredentials => exact h.writesOne _ rfl
  | saveRefresh => exact (h.write _ rfl).bind _
  | rotateRefresh | grantRights | replaceRights | deleteRole | deleteMerchant =>
    exact h.writesOne _ rfl
  | revokeRefresh => exact (h.write _ rfl).map _
  | setBlocked | purgeFailures => exact (h.write _ rfl).map _
  | updateRights | addMerchant => exact h.transaction _
  | insertRole => exact (h.write _ rfl).map _
  | updateRole => exact h.writesOne _ rfl
  | role => exact (h.first? _).bind _
  | roles => exact (h.all _).bind _
  | setGlobal user isGlobal =>
    cases isGlobal with
    | true => exact h.transaction _
    | false => exact (h.first? _).bind _
  | contextRows => exact h.all _
  | deleteContexts => exact h.write _ rfl

namespace Operation

variable {c : Settings} {now : Circumstances} {o : Operation}

/-- The operation on a store in a database. -/
def onPool (c : Settings) (now : Circumstances) (pool : Pool σ) (o : Operation) : Session σ Reply :=
  (o.program c now).run fun k => k.onPool pool

theorem early_eq_none (h : o.inputError? = none) : (o.program c now).early = none := by
  rw [(o.checked c now).early, h, Option.map_none]

theorem onPool_of_inputError {e : Error} (h : o.inputError? = some e) (db : σ) :
    ((o.onPool c now pool).perform db).1 = .error e := by
  have hearly : (o.program c now).early = some (.error e) := by
    rw [(o.checked c now).early, h, Option.map_some]
  rw [onPool, Program.perform_of_early _ hearly]

theorem onPool_of_closed (hclosed : pool.Closed) (h : o.inputError? = none) :
    (o.onPool c now pool).Unreached := fun _ =>
  ((o.program c now).fails_of_early (P := fun _ => True)
    (fun k _ _ => ⟨k.unreached hclosed _, trivial⟩) (early_eq_none h) trivial).1

theorem perform_closed (h : o.inputError? = none) :
    (o.action c now).perform .closed = (.error DatabaseFault.poolClosed.toError, .closed) := by
  let answer {β : Type} (k : StoreCall β) : Session Database β := Action.call k.onStore
  have hcall {β : Type} (k : StoreCall β) (db : Database) (hdb : db = .closed) :
      ((answer k).perform db).1 = .error DatabaseFault.poolClosed.toError ∧
        ((answer k).perform db).2 = .closed := by
    subst hdb
    exact ⟨rfl, rfl⟩
  have hfails := (o.program c now).fails_of_early hcall (early_eq_none h) rfl
  rw [Program.run_onStore] at hfails
  exact Prod.ext hfails.1 hfails.2

end Operation

namespace Event

/-- With the pool closed no operation succeeds. It fails as unavailable, which a caller over HTTP is
told without the cause, and then its input is one that no store finds fault with; or else it fails with
the error that its input gets from every store. Behind a closed database it fails alike. -/
theorem unavailable_fails_closed (c : Settings) (e : Event) (hclosed : pool.Closed) (db : σ) :
    ∃ err : Error, ((e.operation.onPool c e.circumstances pool).perform db).1 = .error err ∧
      e.answer c .closed = (.error err, .closed) ∧
      (∀ id r, Http.Asks c ⟨e.circumstances, id⟩ r e.operation →
        Http.handle c ⟨e.circumstances, id⟩ r .closed =
          (err.response.finish ⟨e.circumstances, id⟩ r, .closed)) ∧
      (err = DatabaseFault.poolClosed.toError ∧ err.response = Http.unavailable ∧
          (∀ s err', (e.answer c (.ready s)).1 = .error err' → err'.kind ≠ .validation) ∨
        (∀ s, e.answer c (.ready s) = (.error err, .ready s)) ∧
          (err.kind = .validation ∨ ∃ user merchant, e.operation = .deleteContext user merchant ∧
            Text.trim merchant = "" ∧ err = .notFound "user context")) := by
  have hresponse {err : Error} (h : e.answer c .closed = (.error err, .closed)) (id : String)
      (r : Http.Request) (hasks : Http.Asks c ⟨e.circumstances, id⟩ r e.operation) :
      Http.handle c ⟨e.circumstances, id⟩ r .closed =
        (err.response.finish ⟨e.circumstances, id⟩ r, .closed) := Http.handle_of_error hasks h
  cases hinput : e.operation.inputError? with
  | some err =>
    have hanswer (db : Database) : e.answer c db = (.error err, db) :=
      Operation.perform_of_inputError hinput c e.circumstances db
    refine ⟨err, Operation.onPool_of_inputError hinput db, hanswer .closed,
      hresponse (hanswer .closed), .inr ⟨fun s => hanswer (.ready s), ?_⟩⟩
    exact Operation.kind_of_inputError hinput
  | none =>
    have hanswer : e.answer c .closed = (.error DatabaseFault.poolClosed.toError, .closed) :=
      Operation.perform_closed hinput
    refine ⟨_, Operation.onPool_of_closed hclosed hinput db, hanswer, hresponse hanswer,
      .inl ⟨rfl, Http.response_storeUnavailable _, fun s err he => ?_⟩⟩
    exact (e.operation.checked c e.circumstances).late hinput (.ready s) err he

/-- A login while the pool is closed: the phone and the password are not what is wrong. -/
theorem login_without_store :
    let c := Settings.ofSecret "secret"
    let now : Circumstances := ⟨⟨.ofSeconds 0 0, .ofSeconds 0 0⟩, ⟨⟨1⟩, [], []⟩⟩
    let pool : Pool Unit := ⟨fun _ db => (.error (.other .poolClosed), db),
      fun _ db => (.error (.other .poolClosed), db), fun db => (.error (.other .poolClosed), db),
      fun db => (.error (.other .poolClosed), db), id⟩
    let o : Operation := .login "+1 555 1234567" "guess"
    pool.Closed ∧ ((o.onPool c now pool).perform ()).1 =
        .error (.storeUnavailable "attempted to acquire a connection on a closed pool") ∧
      ((Event.mk now o).answer c (.ready .empty)).1 = .error .invalidCredentials := by
  intro c now pool o
  have hclosed : pool.Closed := ⟨fun _ _ => rfl, fun _ _ => rfl, fun _ => rfl⟩
  have hready : ((Event.mk now o).answer c (.ready .empty)).1 = .error .invalidCredentials := by
    decide +kernel
  obtain ⟨err, hpool, -, -, ⟨rfl, -⟩ | ⟨hall, hkind⟩⟩ :=
    unavailable_fails_closed c ⟨now, o⟩ hclosed ()
  · exact ⟨hclosed, hpool, hready⟩
  · rw [hall] at hready
    cases hready
    rcases hkind with hkind | ⟨_, _, ho, -⟩
    · cases hkind
    · cases ho

end Event

end Turnstile

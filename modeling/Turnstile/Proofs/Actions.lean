import Turnstile.Database

/-! Actions run step by step, what an action leaves alone in the store, and in what kinds of errors it
does not end. A view is anything that can be read off a store; an action that keeps a view may change
all the rest. -/
namespace Turnstile.Action

variable {α β γ : Type}

@[simp] theorem perform_liftM (x : Except Error α) (db : Database) :
    (liftM x : Action α).perform db = (x, db) := by cases x <;> rfl

@[simp] theorem perform_found (e : Error) (o : Option α) (db : Database) :
    (found e o).perform db = (o.elim (.error e) .ok, db) := by cases o <;> rfl

@[simp] theorem perform_require (holds : Bool) (e : Error) (db : Database) :
    (require holds e).perform db = (if holds then .ok () else .error e, db) := by
  cases holds <;> rfl

@[simp] theorem perform_discard (a : Action α) (db : Database) :
    (discard a : Action PUnit).perform db =
      ((a.perform db).1.map fun _ => PUnit.unit, (a.perform db).2) :=
  perform_map (Function.const α PUnit.unit) a db

theorem perform_map_of_error {a : Action α} {db db' : Database} {e : Error}
    (h : a.perform db = (.error e, db')) (f : α → β) : (f <$> a).perform db = (.error e, db') := by
  rw [perform_map, h]
  rfl

/-- Whatever the action answers, the store stays one that answers and looks the same in the view. -/
def Keeps (view : Store → γ) (a : Action α) : Prop :=
  ∀ s, ∃ s', (a.perform (.ready s)).2 = .ready s' ∧ view s' = view s

namespace Keeps

variable {view : Store → γ} {a : Action α}

theorem pure (x : α) : Keeps view (Pure.pure x : Action α) := fun s => ⟨s, rfl, rfl⟩

theorem throw (e : Error) : Keeps view (MonadExcept.throw e : Action α) := fun s => ⟨s, rfl, rfl⟩

theorem liftM (x : Except Error α) : Keeps view (MonadLiftT.monadLift x : Action α) :=
  fun s => ⟨s, congrArg Prod.snd (perform_liftM x _), rfl⟩

theorem found (e : Error) (o : Option α) : Keeps view (Action.found e o) :=
  fun s => ⟨s, by simp, rfl⟩

theorem require (holds : Bool) (e : Error) : Keeps view (Action.require holds e) :=
  fun s => ⟨s, by simp, rfl⟩

theorem query (f : Store → α) : Keeps view (Action.query f) := fun s => ⟨s, rfl, rfl⟩

theorem call {f : Store → Except Error α × Store} (h : ∀ s, view (f s).2 = view s) :
    Keeps view (Action.call f) := fun s => ⟨(f s).2, rfl, h s⟩

theorem change {f : Store → α × Store} (h : ∀ s, view (f s).2 = view s) :
    Keeps view (Action.change f) := fun s => ⟨(f s).2, rfl, h s⟩

theorem bind {f : α → Action β} (ha : Keeps view a) (hf : ∀ x, Keeps view (f x)) :
    Keeps view (a >>= f) := by
  intro s
  obtain ⟨s₁, h₁, hv₁⟩ := ha s
  rw [perform_bind, h₁]
  cases (a.perform (.ready s)).1 with
  | error e => exact ⟨s₁, rfl, hv₁⟩
  | ok x =>
    obtain ⟨s₂, h₂, hv₂⟩ := hf x s₁
    exact ⟨s₂, h₂, hv₂.trans hv₁⟩

theorem map (f : α → β) (ha : Keeps view a) : Keeps view (f <$> a) := by
  intro s
  obtain ⟨s₁, h₁, hv₁⟩ := ha s
  exact ⟨s₁, by rw [perform_map, h₁], hv₁⟩

theorem ite {p : Prop} [Decidable p] {b : Action α} (ha : Keeps view a) (hb : Keeps view b) :
    Keeps view (if p then a else b) := by split <;> assumption

/-- An action after a refusal that may come before it. -/
theorem guarded {p : Prop} [Decidable p] (e : Error) (ha : Keeps view a) :
    Keeps view (if p then (MonadExcept.throw e : Action Unit) >>= fun _ => a else a) :=
  .ite (.bind (.throw e) fun _ => ha) ha

end Keeps

/-- No answer is an error of the kind. -/
def Avoids (k : ErrorKind) (a : Action α) : Prop :=
  ∀ db e, (a.perform db).1 = .error e → e.kind ≠ k

namespace Avoids

variable {k : ErrorKind} {a : Action α}

theorem pure (x : α) : Avoids k (Pure.pure x : Action α) := nofun

theorem throw {e : Error} (he : e.kind ≠ k) : Avoids k (MonadExcept.throw e : Action α) := by
  rintro db _ ⟨⟩
  exact he

theorem liftM {x : Except Error α} (hx : ∀ e, x = .error e → e.kind ≠ k) :
    Avoids k (MonadLiftT.monadLift x : Action α) := by
  intro db e he
  exact hx e ((congrArg Prod.fst (perform_liftM x db)).symm.trans he)

theorem found {e : Error} {o : Option α} (he : e.kind ≠ k) : Avoids k (Action.found e o) := by
  cases o with
  | none => exact throw he
  | some x => exact pure x

theorem require {e : Error} {holds : Bool} (he : e.kind ≠ k) :
    Avoids k (Action.require holds e) := by
  cases holds with
  | false => exact throw he
  | true => exact pure ()

/-- Without a store a call fails as unavailable. -/
theorem call (hk : k ≠ .unavailable) {f : Store → Except Error α × Store}
    (hf : ∀ s e, (f s).1 = .error e → e.kind ≠ k) : Avoids k (Action.call f) := by
  rintro (s | _) e he
  · exact hf s e he
  · cases he
    exact hk.symm

theorem query (hk : k ≠ .unavailable) (f : Store → α) : Avoids k (Action.query f) :=
  call hk fun _ => nofun

theorem change (hk : k ≠ .unavailable) (f : Store → α × Store) : Avoids k (Action.change f) :=
  call hk fun _ => nofun

theorem bind {f : α → Action β} (ha : Avoids k a) (hf : ∀ x, Avoids k (f x)) :
    Avoids k (a >>= f) := by
  intro db e he
  rw [perform_bind] at he
  split at he
  next x _ => exact hf x _ e he
  next e' hx =>
    cases he
    exact ha db e hx

theorem map (f : α → β) (ha : Avoids k a) : Avoids k (f <$> a) := by
  intro db e he
  rw [perform_map] at he
  cases hx : (a.perform db).1 with
  | error e' =>
    rw [hx] at he
    cases he
    exact ha db e hx
  | ok x =>
    rw [hx] at he
    cases he

theorem ite {p : Prop} [Decidable p] {b : Action α} (ha : Avoids k a) (hb : Avoids k b) :
    Avoids k (if p then a else b) := by split <;> assumption

/-- An action after a refusal that may come before it. -/
theorem guarded {p : Prop} [Decidable p] {e : Error} (he : e.kind ≠ k) (ha : Avoids k a) :
    Avoids k (if p then (MonadExcept.throw e : Action Unit) >>= fun _ => a else a) :=
  .ite (.bind (.throw he) fun _ => ha) ha

end Avoids

end Turnstile.Action

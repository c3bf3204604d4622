import Mathlib.Data.List.Induction
import Turnstile.Proofs.Frames

/-! Runs of events: what each event met and answered, and induction over the stores that a run from
the empty store goes through. -/
namespace Turnstile

/-- The store behind a database that answers. -/
def Database.store? : Database → Option Store
  | ready s => some s
  | closed => none

/-- One event of a run, with the database it met and what it answered. -/
structure Moment where
  before : Database
  event : Event
  answer : Except Error Reply

namespace Event

def serviceTime (e : Event) : Instant := e.circumstances.clocks.service

/-- A store that answers goes on answering. -/
theorem exists_ready (c : Settings) (e : Event) (s : Store) :
    ∃ s', (e.answer c (.ready s)).2 = .ready s' := by
  have hkeeps : (e.operation.action c e.circumstances).Keeps fun _ => () :=
    e.operation.keeps c e.circumstances fun _ _ _ _ _ => rfl
  obtain ⟨s', h, _⟩ := hkeeps s
  exact ⟨s', h⟩

/-- What an event cannot write looks the same after it. -/
theorem view_eq {γ : Type} {view : Store → γ} {c : Settings} {e : Event} {s s' : Store}
    (h : (e.answer c (.ready s)).2 = .ready s') (hp : ∀ p ∈ e.operation.parts, p.Hidden view) :
    view s' = view s := by
  obtain ⟨t, ht, hv⟩ := e.operation.keeps c e.circumstances hp s
  have he : Database.ready s' = .ready t := h.symm.trans ht
  cases he
  exact hv

end Event

namespace Database

theorem after_concat (c : Settings) (db : Database) (events : List Event) (e : Event) :
    db.after c (events ++ [e]) = (e.answer c (db.after c events)).2 := by
  simp [after, List.foldl_append]

def moments (c : Settings) (db : Database) : List Event → List Moment
  | [] => []
  | e :: events => ⟨db, e, (e.answer c db).1⟩ :: moments c (e.answer c db).2 events

theorem moments_concat (c : Settings) (db : Database) (events : List Event) (e : Event) :
    db.moments c (events ++ [e]) =
      db.moments c events ++ [⟨db.after c events, e, (e.answer c (db.after c events)).1⟩] := by
  induction events generalizing db with
  | nil => rfl
  | cons f events ih => simp only [List.cons_append, moments, ih, after, List.foldl_cons]

/-- What holds of the empty store and survives each event holds at the end of every run that keeps
to a rule, where what keeps to it has always done so. -/
theorem after_induction {c : Settings} {Q : List Event → Prop} {P : List Event → Store → Prop}
    (hstart : ∀ {events e}, Q (events ++ [e]) → Q events) (hempty : P [] .empty)
    (hstep : ∀ {events e s s'}, Q (events ++ [e]) →
      (Database.ready .empty).after c events = .ready s → P events s →
      (e.answer c (.ready s)).2 = .ready s' → P (events ++ [e]) s')
    {events : List Event} (hQ : Q events) :
    ∃ s, (Database.ready .empty).after c events = .ready s ∧ P events s := by
  induction events using List.reverseRecOn with
  | nil => exact ⟨.empty, rfl, hempty⟩
  | append_singleton events e ih =>
    obtain ⟨s, hs, hP⟩ := ih (hstart hQ)
    obtain ⟨s', hs'⟩ := e.exists_ready c s
    exact ⟨s', by rw [after_concat, hs, hs'], hstep hQ hs hP hs'⟩

end Database

end Turnstile

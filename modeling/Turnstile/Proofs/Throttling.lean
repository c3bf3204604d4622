import Turnstile.Proofs.Authentication
import Turnstile.Proofs.Runs

/-! Guessing passwords is slow. Over every run, the failed logins of a phone come in rounds of six:
the third of a round is followed by a wait of 30 seconds and the sixth by one of 60, and nothing
else that happens moves the phone within its round. -/
namespace Turnstile

/-- When a login of the phone, in any spelling, failed for its credentials. -/
def Moment.failure? (phone : String) (m : Moment) : Option Instant :=
  match m.event.operation, m.answer with
  | .login spelling _, .error .invalidCredentials =>
    if Phone.normalize spelling = phone then some m.event.serviceTime else none
  | _, _ => none

/-- The times of the failed logins of a phone, in order. -/
def failures (phone : String) (ms : List Moment) : List Instant := ms.filterMap (·.failure? phone)

namespace Lockout

/-- How long a phone has to wait after its `n`-th failure, counted from one. -/
def waitAfter (n : Nat) : Duration :=
  if n % 6 = 3 then .ofSeconds 30 else if n % 6 = 0 then .ofSeconds 60 else .ofSeconds 0

theorem waitAfter_third (k : Nat) : waitAfter (6 * k + 2 + 1) = .ofSeconds 30 := by
  unfold waitAfter
  rw [if_pos (by omega)]

theorem waitAfter_sixth (k : Nat) : waitAfter (6 * k + 5 + 1) = .ofSeconds 60 := by
  unfold waitAfter
  rw [if_neg (by omega), if_pos (by omega)]

/-- The time falls within 30 seconds of the third failure of a round or 60 of its sixth. -/
def Waiting (fs : List Instant) (now : Instant) : Prop :=
  ∃ (k : Nat) (t : Instant), fs[6 * k + 2]? = some t ∧ now < t.after (.ofSeconds 30) ∨
    fs[6 * k + 5]? = some t ∧ now < t.after (.ofSeconds 60)

/-- The wait that the last failure calls for is over. -/
def Elapsed (fs : List Instant) (now : Instant) : Prop :=
  ∀ t, fs.getLast? = some t → t.after (waitAfter fs.length) ≤ now

/-- Between two failures in a row lies the wait that the first calls for. -/
def Spaced (fs : List Instant) : Prop :=
  ∀ (i : Nat) (t t' : Instant), fs[i]? = some t → fs[i + 1]? = some t' →
    t.after (waitAfter (i + 1)) ≤ t'

theorem Elapsed.mono {fs : List Instant} {now later : Instant} (h : Elapsed fs now)
    (hl : now ≤ later) : Elapsed fs later := fun t ht => Int.le_trans (h t ht) hl

theorem spaced_nil : Spaced [] := by
  intro i t t' ht
  simp at ht

theorem Spaced.concat {fs : List Instant} {now : Instant} (hs : Spaced fs) (he : Elapsed fs now) :
    Spaced (fs ++ [now]) := by
  intro i t t' ht ht'
  have hi : i + 1 < (fs ++ [now]).length := (List.getElem?_eq_some_iff.mp ht').1
  rw [List.length_append, List.length_singleton] at hi
  rw [List.getElem?_append_left (by omega)] at ht
  by_cases hlast : i + 1 < fs.length
  · rw [List.getElem?_append_left hlast] at ht'
    exact hs i t t' ht ht'
  · have hlen : fs.length = i + 1 := by omega
    rw [← hlen, List.getElem?_concat_length] at ht'
    obtain rfl := Option.some.inj ht'
    have hl : fs.getLast? = some t := by rw [List.getLast?_eq_getElem?, hlen]; exact ht
    rw [← hlen]
    exact he t hl

/-- With the waits kept and no failure ahead of the clock, only the last failure can call for one.
-/
theorem elapsed_iff {fs : List Instant} {now : Instant} (hs : Spaced fs)
    (hnow : ∀ t ∈ fs, t ≤ now) : Elapsed fs now ↔
      ∀ (i : Nat) (t : Instant), fs[i]? = some t → t.after (waitAfter (i + 1)) ≤ now := by
  constructor
  · intro he i t ht
    have hi := (List.getElem?_eq_some_iff.mp ht).1
    by_cases hlast : i + 1 < fs.length
    · exact Int.le_trans (hs i t _ ht (List.getElem?_eq_getElem hlast))
        (hnow _ (List.getElem_mem hlast))
    · have hlen : fs.length = i + 1 := by omega
      rw [← hlen]
      exact he t (by rw [List.getLast?_eq_getElem?, hlen]; exact ht)
  · intro h t ht
    rw [List.getLast?_eq_getElem?] at ht
    have hi := (List.getElem?_eq_some_iff.mp ht).1
    have hlen : fs.length - 1 + 1 = fs.length := by omega
    rw [← hlen]
    exact h _ t ht

theorem waiting_iff {fs : List Instant} {now : Instant} (hs : Spaced fs)
    (hnow : ∀ t ∈ fs, t ≤ now) : Waiting fs now ↔ ¬ Elapsed fs now := by
  rw [elapsed_iff hs hnow]
  constructor
  · rintro ⟨k, t, ⟨ht, hlt⟩ | ⟨ht, hlt⟩⟩ he
    · have h := he _ t ht
      rw [waitAfter_third] at h
      exact Int.not_lt.mpr h hlt
    · have h := he _ t ht
      rw [waitAfter_sixth] at h
      exact Int.not_lt.mpr h hlt
  · intro he
    simp only [not_forall] at he
    obtain ⟨i, t, ht, hlt⟩ := he
    have hlt : now < t.after (waitAfter (i + 1)) := Int.not_le.mp hlt
    by_cases h3 : (i + 1) % 6 = 3
    · have hi : i = 6 * (i / 6) + 2 := by omega
      rw [hi] at ht hlt
      rw [waitAfter_third] at hlt
      exact ⟨i / 6, t, .inl ⟨ht, hlt⟩⟩
    by_cases h6 : (i + 1) % 6 = 0
    · have hi : i = 6 * (i / 6) + 5 := by omega
      rw [hi] at ht hlt
      rw [waitAfter_sixth] at hlt
      exact ⟨i / 6, t, .inr ⟨ht, hlt⟩⟩
    · have hw : waitAfter (i + 1) = .ofSeconds 0 := by
        unfold waitAfter
        rw [if_neg h3, if_neg h6]
      have ht' : t.nanos ≤ now.nanos := hnow t (List.mem_of_getElem? ht)
      rw [hw, Instant.lt_iff] at hlt
      simp only [Instant.after, Duration.ofSeconds] at hlt
      omega

/-- A ledger entry that fits the failures so far, at a given time. Its count starts over with each
round, and a lock stays in it until the first check after its end. -/
inductive Fits (fs : List Instant) (now : Instant) : Option FailedLogins → Prop where
  | absent (h : fs.length % 6 = 0) (he : Elapsed fs now) : Fits fs now none
  | counting (r : FailedLogins) (h : r.attempts = fs.length % 6) (hpos : 0 < r.attempts)
      (hb : r.blockedUntil = none) (he : Elapsed fs now) : Fits fs now (some r)
  | blocked (r : FailedLogins) (t : Instant) (hl : fs.getLast? = some t)
      (h : r.attempts = 3 ∧ fs.length % 6 = 3 ∨ r.attempts = 6 ∧ fs.length % 6 = 0)
      (hb : r.blockedUntil = some (t.after (waitAfter fs.length))) : Fits fs now (some r)

theorem Fits.mono {fs : List Instant} {now later : Instant} {r : Option FailedLogins}
    (h : Fits fs now r) (hl : now ≤ later) : Fits fs later r := by
  cases h with
  | absent h he => exact .absent h (he.mono hl)
  | counting r h hpos hb he => exact .counting r h hpos hb (he.mono hl)
  | blocked r t hlast h hb => exact .blocked r t hlast h hb

/-- The guard turns a phone away exactly while the wait after its last failure lasts. -/
theorem Fits.lockOn?_eq_none_iff {fs : List Instant} {now : Instant} {r : Option FailedLogins}
    (h : Fits fs now r) : lockOn? now r = none ↔ Elapsed fs now := by
  cases h with
  | absent h he => exact ⟨fun _ => he, fun _ => rfl⟩
  | counting r h hpos hb he =>
    refine ⟨fun _ => he, fun _ => ?_⟩
    have h6 : ¬ longThreshold ≤ r.attempts := by unfold longThreshold; omega
    simp [lockOn?, FailedLogins.verdict, hb, h6]
  | blocked r t hl h hb =>
    rw [lockOn?_eq_none_iff_of_blocked hb]
    refine ⟨fun hend t' ht' => ?_, fun he => he t hl⟩
    rw [hl] at ht'
    obtain rfl := Option.some.inj ht'
    exact hend

/-- A check that admits leaves an entry that still fits and is ready for the next failure. -/
theorem Fits.settle {fs : List Instant} {now : Instant} {r : Option FailedLogins} (phone : String)
    (h : Fits fs now r) (he : Elapsed fs now) :
    Fits fs now (settle now r) ∧
      (Store.raised phone (Lockout.settle now r)).attempts = fs.length % 6 + 1 ∧
      (Store.raised phone (Lockout.settle now r)).blockedUntil = none := by
  cases h with
  | absent h _ => exact ⟨.absent h he, by simp [Lockout.settle, Store.raised, h], rfl⟩
  | counting r h hpos hb _ =>
    have h6 : ¬ longThreshold ≤ r.attempts := by unfold longThreshold; omega
    have hs : Lockout.settle now (some r) = some r := by
      simp [Lockout.settle, FailedLogins.verdict, hb, h6]
    rw [hs]
    exact ⟨.counting r h hpos hb he, by simp [Store.raised, h], hb⟩
  | blocked r t hl h hb =>
    have hn : ¬ now < t.after (waitAfter fs.length) := Int.not_lt.mpr (he t hl)
    rcases h with ⟨h3, hlen⟩ | ⟨h6, hlen⟩
    · have hs : Lockout.settle now (some r) = some { r with blockedUntil := none } := by
        simp [Lockout.settle, FailedLogins.verdict, hb, hn, h3, longThreshold]
      rw [hs]
      refine ⟨.counting _ ?_ ?_ rfl he, ?_, rfl⟩ <;> simp [Store.raised, h3, hlen]
    · have hs : Lockout.settle now (some r) = none := by
        simp [Lockout.settle, FailedLogins.verdict, hb, hn, h6, longThreshold]
      rw [hs]
      exact ⟨.absent hlen he, by simp [Store.raised, hlen], rfl⟩

/-- The next failure locks the phone as the third or the sixth of its round, else only counts. -/
theorem Fits.charge {fs : List Instant} {now : Instant} {r : Option FailedLogins} (phone : String)
    (h : Fits fs now r) (he : Elapsed fs now) :
    Fits (fs ++ [now]) now (some (charge now phone (Lockout.settle now r))) := by
  obtain ⟨-, hcount, hblocked⟩ := h.settle phone he
  unfold Lockout.charge
  generalize Store.raised phone (Lockout.settle now r) = x at hcount hblocked
  have hlast : (fs ++ [now]).getLast? = some now := List.getLast?_concat
  have hlen : (fs ++ [now]).length = fs.length + 1 := by simp
  by_cases h3 : x.attempts = 3
  · have hmod : (fs.length + 1) % 6 = 3 := by omega
    have hw : waitAfter (fs.length + 1) = .ofSeconds 30 := by simp [waitAfter, hmod]
    have hl : lockSeconds? x.attempts = some 30 := by rw [h3]; rfl
    simp only [hl]
    exact .blocked _ now hlast (.inl ⟨h3, hlen ▸ hmod⟩) (by rw [hlen, hw])
  by_cases h6 : x.attempts = 6
  · have hmod : (fs.length + 1) % 6 = 0 := by omega
    have hw : waitAfter (fs.length + 1) = .ofSeconds 60 := by simp [waitAfter, hmod]
    have hl : lockSeconds? x.attempts = some 60 := by rw [h6]; rfl
    simp only [hl]
    exact .blocked _ now hlast (.inr ⟨h6, hlen ▸ hmod⟩) (by rw [hlen, hw])
  -- No lock is due: the count is within its round, and the next failure need not wait.
  · have hl : lockSeconds? x.attempts = none := by
      unfold lockSeconds? shortThreshold longThreshold
      rw [if_neg (by omega), if_neg (by omega)]
    simp only [hl]
    refine .counting x (by omega) (by omega) hblocked fun t ht => ?_
    rw [hlast] at ht
    obtain rfl := Option.some.inj ht
    have hw : waitAfter (fs ++ [now]).length = .ofSeconds 0 := by
      unfold waitAfter
      rw [if_neg (by omega), if_neg (by omega)]
    rw [hw, Instant.le_iff]
    simp [Instant.after, Duration.ofSeconds]

end Lockout

namespace Authentication

open Lockout

variable {c : Settings} {clocks : Clocks} {random : Bytes} {spelling password : String}
  {s s' : Store} {answer : Except Error TokenPair}

theorem saveRefresh_ledger (s : Store) (id : Uuid) (g : RefreshGrant) :
    (s.saveRefresh id g).2.ledger = s.ledger := by
  rcases s.saveRefresh_writes id g with h | h
  · rw [h]
  · exact Part.hidden_ledger (by decide) _ _ h

theorem checked_ledger (now : Instant) (phone : String) (s : Store) :
    (checked now spelling s).ledger[phone]? =
      if phone = Phone.normalize spelling then settle now s.ledger[phone]?
      else s.ledger[phone]? := by
  unfold checked
  rw [Store.alterLedger_get]
  split
  next h => rw [h]
  next => rfl

/-- A login leaves the other phones' entries as they are. -/
theorem LoginOutcome.ledger_of_ne (h : LoginOutcome c clocks random spelling password s answer s')
    {phone : String} (hp : phone ≠ Phone.normalize spelling) :
    s'.ledger[phone]? = s.ledger[phone]? := by
  cases h with
  | refused | locked => rfl
  | failed => rw [Store.alterLedger_get, if_neg hp, checked_ledger, if_neg hp]
  | unissued => rw [checked_ledger, if_neg hp]
  | admitted => rw [saveRefresh_ledger, checked_ledger, if_neg hp]

/-- A lock that applies is all that happens. -/
theorem LoginOutcome.eq_of_locked (h : LoginOutcome c clocks random spelling password s answer s')
    (hl : lockOn? clocks.service s.ledger[Phone.normalize spelling]? ≠ none) : s' = s := by
  cases h with
  | refused | locked => rfl
  | failed hx | unissued _ _ hx | admitted _ _ _ hx => exact absurd hx.unlocked hl

theorem LoginOutcome.locked_iff (h : LoginOutcome c clocks random spelling password s answer s')
    (hp : password ≠ "")
    (hw : lockOn? clocks.service s.ledger[Phone.normalize spelling]? ≠ none →
      Phone.wellFormed (Phone.normalize spelling) = true) :
    (∃ n, answer = .error (.locked n)) ↔
      lockOn? clocks.service s.ledger[Phone.normalize spelling]? ≠ none := by
  cases h with
  | refused message h =>
    refine ⟨fun ⟨_, hn⟩ => (nomatch hn), fun hl => ?_⟩
    rcases h with h | h
    · exact absurd h hp
    · rw [hw hl] at h
      cases h
  | locked seconds _ h => exact ⟨fun _ => by simp [h], fun _ => ⟨seconds, rfl⟩⟩
  | failed hx => exact ⟨fun ⟨_, hn⟩ => (nomatch hn), fun hl => absurd hx.unlocked hl⟩
  | unissued e a hx _ hs =>
    refine ⟨fun ⟨n, hn⟩ => ?_, fun hl => absurd hx.unlocked hl⟩
    obtain rfl := Except.error.inj hn
    have := kind_of_session (fun _ => Settings.kind_of_lifetime) hs
    cases this
  | admitted a pair g hx =>
    refine ⟨fun ⟨n, hn⟩ => ?_, fun hl => absurd hx.unlocked hl⟩
    unfold Store.saveRefresh at hn
    split at hn <;> simp [Except.map] at hn

/-- One login of the phone: only a failure for its credentials joins the failures, and it comes when
the wait before it is over. -/
theorem LoginOutcome.fits (h : LoginOutcome c clocks random spelling password s answer s')
    {fs : List Instant} (hf : Fits fs clocks.service s.ledger[Phone.normalize spelling]?) :
    (answer ≠ .error .invalidCredentials ∧
      Fits fs clocks.service s'.ledger[Phone.normalize spelling]?) ∨
    (answer = .error .invalidCredentials ∧ Examined clocks.service spelling password s ∧
      Elapsed fs clocks.service ∧
      Fits (fs ++ [clocks.service]) clocks.service s'.ledger[Phone.normalize spelling]?) := by
  cases h with
  | refused | locked => exact .inl ⟨by simp, hf⟩
  | failed hx =>
    have he := hf.lockOn?_eq_none_iff.mp hx.unlocked
    refine .inr ⟨rfl, hx, he, ?_⟩
    rw [Store.alterLedger_get, if_pos rfl, checked_ledger, if_pos rfl]
    exact hf.charge _ he
  | unissued e a hx _ hs =>
    have he := hf.lockOn?_eq_none_iff.mp hx.unlocked
    refine .inl ⟨?_, ?_⟩
    · rintro ⟨⟩
      have := kind_of_session (fun _ => Settings.kind_of_lifetime) hs
      cases this
    · rw [checked_ledger, if_pos rfl]
      exact (hf.settle (Phone.normalize spelling) he).1
  | admitted a pair g hx =>
    have he := hf.lockOn?_eq_none_iff.mp hx.unlocked
    refine .inl ⟨?_, ?_⟩
    · unfold Store.saveRefresh
      split <;> simp [Except.map]
    · rw [saveRefresh_ledger, checked_ledger, if_pos rfl]
      exact (hf.settle (Phone.normalize spelling) he).1

end Authentication

namespace Event

open Lockout

/-- The step of a run, for one phone: the event is no failure of the phone and the entry goes on
fitting, or it is the next failure, after its wait, and the entry fits with it. -/
theorem fits {c : Settings} {e : Event} {s s' : Store} {phone : String} {fs : List Instant}
    (h : (e.answer c (.ready s)).2 = .ready s') (hf : Fits fs e.serviceTime s.ledger[phone]?) :
    (Moment.failure? phone ⟨.ready s, e, (e.answer c (.ready s)).1⟩ = none ∧
      Fits fs e.serviceTime s'.ledger[phone]?) ∨
    (Moment.failure? phone ⟨.ready s, e, (e.answer c (.ready s)).1⟩ = some e.serviceTime ∧
      Phone.wellFormed phone = true ∧ Elapsed fs e.serviceTime ∧
      Fits (fs ++ [e.serviceTime]) e.serviceTime s'.ledger[phone]?) := by
  obtain ⟨⟨clocks, random⟩, o⟩ := e
  have hkept (hp : ∀ p ∈ o.parts, p ≠ .ledger) :
      Fits fs clocks.service s'.ledger[phone]? := by
    rw [view_eq h fun p hmem => Part.hidden_ledger (hp p hmem)]
    exact hf
  cases o with
  | login spelling password =>
    obtain ⟨answer, t, ha, ho⟩ :=
      Authentication.login_outcome c clocks random.token spelling password s
    have hanswer : Event.answer c ⟨⟨clocks, random⟩, .login spelling password⟩ (.ready s) =
        (answer.map Reply.tokens, .ready t) := by
      simp [Event.answer, Operation.action, Action.perform_map, ha]
    rw [hanswer] at h ⊢
    cases h
    by_cases hp : Phone.normalize spelling = phone
    · subst hp
      rcases ho.fits hf with ⟨hne, hfit⟩ | ⟨rfl, hx, he, hfit⟩
      · refine .inl ⟨?_, hfit⟩
        cases answer with
        | ok pair => rfl
        | error e => cases e <;> first | rfl | exact absurd rfl hne
      · refine .inr ⟨?_, hx.wellFormed, he, hfit⟩
        simp [Moment.failure?, Except.map, Event.serviceTime]
    · refine .inl ⟨?_, ?_⟩
      · unfold Moment.failure?
        split
        next ho _ =>
          cases ho
          exact if_neg hp
        next => rfl
      · rw [ho.ledger_of_ne (Ne.symm hp)]
        exact hf
  | _ => exact .inl ⟨rfl, hkept (by simp [Operation.parts])⟩

end Event

namespace Database

open Lockout

theorem failures_concat (phone : String) (ms : List Moment) (m : Moment) :
    failures phone (ms ++ [m]) = failures phone ms ++ (m.failure? phone).toList := by
  cases h : m.failure? phone <;> simp [failures, h]

/-- Where a run stands for one phone: the waits were kept, none of its failures is ahead of the
clock, and the entry fits them at any time not before the run's. -/
structure Throttled (phone : String) (fs clocks : List Instant) (r : Option FailedLogins) :
    Prop where
  spaced : Spaced fs
  past : ∀ t ∈ fs, t ∈ clocks
  wellFormed : ∀ t ∈ fs, Phone.wellFormed phone = true
  fits : ∀ now, (∀ t ∈ clocks, t ≤ now) → Fits fs now r

theorem throttled_after (c : Settings) (phone : String) {events : List Event}
    (hc : events.Pairwise fun e f => e.serviceTime ≤ f.serviceTime) :
    ∃ s, (ready .empty).after c events = .ready s ∧
      Throttled phone (failures phone ((ready .empty).moments c events))
        (events.map Event.serviceTime) s.ledger[phone]? := by
  refine after_induction (Q := List.Pairwise fun e f => e.serviceTime ≤ f.serviceTime)
    (P := fun events s => Throttled phone (failures phone ((ready .empty).moments c events))
      (events.map Event.serviceTime) s.ledger[phone]?) ?_ ?_ ?_ hc
  · exact fun h => (List.pairwise_append.mp h).1
  · refine ⟨spaced_nil, by simp [failures, moments], by simp [failures, moments], fun now _ => ?_⟩
    have hnone : Store.empty.ledger[phone]? = none := by simp [Store.empty]
    rw [hnone]
    exact .absent rfl (by simp [Elapsed, failures, moments])
  · intro events e s s' hpair hs ih hstep
    obtain ⟨-, -, hlast⟩ := List.pairwise_append.mp hpair
    obtain ⟨hspaced, hpast, hphone, hfits⟩ := ih
    have hnow : ∀ t ∈ events.map Event.serviceTime, t ≤ e.serviceTime := by
      intro t ht
      obtain ⟨f, hf, rfl⟩ := List.mem_map.mp ht
      exact hlast f hf e (by simp)
    rw [moments_concat, failures_concat, hs, List.map_append]
    have hpast' : ∀ t ∈ failures phone ((ready .empty).moments c events),
        t ∈ events.map Event.serviceTime ++ [e].map Event.serviceTime :=
      fun t ht => List.mem_append_left _ (hpast t ht)
    rcases Event.fits hstep (hfits e.serviceTime hnow) with
      ⟨hnone, hfit⟩ | ⟨hsome, hwell, he, hfit⟩
    · rw [hnone, Option.toList_none, List.append_nil]
      exact ⟨hspaced, hpast', hphone, fun now hn => hfit.mono (hn _ (by simp))⟩
    · rw [hsome, Option.toList_some]
      refine ⟨hspaced.concat he, fun t ht => ?_, fun _ _ => hwell,
        fun now hn => hfit.mono (hn _ (by simp))⟩
      rcases List.mem_append.mp ht with ht | ht
      · exact hpast' t ht
      · exact List.mem_append_right _ ht

/-- Over any run whose clock never goes back and stays a minute within the calendar, whatever else
happens in it, the fourth failed login of a round of six comes at least 30 seconds after the third,
the first of the next round at least 60 seconds after the sixth, and a login of the phone is turned
away as locked, with nothing changed, exactly while one of these waits lasts. -/
theorem logins_throttled (c : Settings) (phone : String) {events : List Event}
    (hc : events.Pairwise fun e f => e.serviceTime ≤ f.serviceTime)
    (hl : ∀ e ∈ events, Lockable e.serviceTime) :
    let db := (ready .empty).after c events
    let fs := failures phone ((ready .empty).moments c events)
    (∀ (k : Nat) (t t' : Instant), fs[6 * k + 2]? = some t → fs[6 * k + 3]? = some t' →
      ∃ til, t.after? (.ofSeconds 30) = some til ∧ til ≤ t') ∧
    (∀ (k : Nat) (t t' : Instant), fs[6 * k + 5]? = some t → fs[6 * k + 6]? = some t' →
      ∃ til, t.after? (.ofSeconds 60) = some til ∧ til ≤ t') ∧
    ∀ (now : Circumstances) (spelling password : String),
      (∀ e ∈ events, e.serviceTime ≤ now.clocks.service) → Phone.normalize spelling = phone →
      password ≠ "" →
      let (answer, db') := Event.answer c ⟨now, .login spelling password⟩ db
      ((∃ n, answer = .error (.locked n)) ↔ Waiting fs now.clocks.service) ∧
        (Waiting fs now.clocks.service → db' = db) := by
  obtain ⟨s, hs, hspaced, hpast, hphone, hfits⟩ := throttled_after c phone hc
  have hlockable : ∀ t ∈ failures phone ((ready .empty).moments c events), Lockable t := by
    intro t ht
    obtain ⟨e, he, rfl⟩ := List.mem_map.mp (hpast t ht)
    exact hl e he
  dsimp only
  rw [hs]
  refine ⟨fun k t t' ht ht' => ?_, fun k t t' ht ht' => ?_, ?_⟩
  · have h := hspaced (6 * k + 2) t t' ht ht'
    rw [waitAfter_third] at h
    exact ⟨_, (hlockable t (List.mem_of_getElem? ht)).after? (by decide), h⟩
  · have h := hspaced (6 * k + 5) t t' ht ht'
    rw [waitAfter_sixth] at h
    exact ⟨_, (hlockable t (List.mem_of_getElem? ht)).after? (by decide), h⟩
  · intro now spelling password hnow hp hpassword
    subst hp
    obtain ⟨answer, s', ha, ho⟩ := Authentication.login_outcome c now.clocks now.entropy.token
      spelling password s
    have hanswer : Event.answer c ⟨now, .login spelling password⟩ (.ready s) =
        (answer.map Reply.tokens, .ready s') := by
      simp [Event.answer, Operation.action, Action.perform_map, ha]
    rw [hanswer]
    have hclock : ∀ t ∈ events.map Event.serviceTime, t ≤ now.clocks.service := by
      intro t ht
      obtain ⟨e, he, rfl⟩ := List.mem_map.mp ht
      exact hnow e he
    have hwaiting : Waiting (failures (Phone.normalize spelling) ((ready .empty).moments c events))
        now.clocks.service ↔
          lockOn? now.clocks.service s.ledger[Phone.normalize spelling]? ≠ none := by
      rw [waiting_iff hspaced fun t ht => hclock t (hpast t ht), not_iff_not]
      exact (hfits _ hclock).lockOn?_eq_none_iff.symm
    have hlocked : (∃ n, answer.map Reply.tokens = .error (.locked n)) ↔
        ∃ n, answer = .error (.locked n) := by cases answer <;> simp [Except.map]
    dsimp only
    rw [hlocked, hwaiting]
    refine ⟨ho.locked_iff hpassword fun hl => ?_, fun hl => by rw [ho.eq_of_locked hl]⟩
    obtain ⟨k, t, ⟨ht, -⟩ | ⟨ht, -⟩⟩ := hwaiting.mpr hl
    all_goals exact hphone t (List.mem_of_getElem? ht)

/-- A guess for a phone, with nothing random in it. -/
def guess (phone : String) (seconds : Int) : Event :=
  ⟨⟨⟨.ofSeconds seconds 0, .ofSeconds seconds 0⟩, ⟨⟨0⟩, [], []⟩⟩, .login phone "guess"⟩

/-- Three guesses within two seconds, and a fourth 29 seconds after the third. -/
theorem fourth_guess_locked :
    let c := Settings.ofSecret "secret"
    let guesses := [0, 1, 2].map (guess "+15551234567")
    let db := (ready .empty).after c guesses
    (∃ n, ((guess "+1 555 1234567" 31).answer c db).1 = .error (.locked n)) ∧
      ((guess "+1 555 1234567" 31).answer c db).2 = db := by
  have hfs : failures "+15551234567" ((ready .empty).moments (.ofSecret "secret")
      ([0, 1, 2].map (guess "+15551234567"))) = [0, 1, 2].map (Instant.ofSeconds · 0) := by
    decide +kernel
  have hclock : ([0, 1, 2].map (guess "+15551234567")).Pairwise
      fun e f => e.serviceTime ≤ f.serviceTime := by decide
  have hlockable : ∀ e ∈ [0, 1, 2].map (guess "+15551234567"), Lockable e.serviceTime := by decide
  have h := (logins_throttled (.ofSecret "secret") "+15551234567" hclock hlockable).2.2
    (guess "" 31).circumstances "+1 555 1234567" "guess" (by decide) (by decide) (by decide)
  have hw : Waiting ([0, 1, 2].map (Instant.ofSeconds · 0)) (.ofSeconds 31 0) :=
    ⟨0, .ofSeconds 2 0, .inl ⟨rfl, by decide⟩⟩
  rw [hfs] at h
  exact ⟨h.1.mpr hw, h.2 hw⟩

end Database

end Turnstile

import Turnstile.Cli.Parse
import Turnstile.Proofs.Outcomes

/-! What an accepted command line holds. A value is kept only once its argument has read it,
wherever it came from, so that the numbers the server starts with lie in the ranges of their
arguments. -/
namespace Turnstile.Cli

theorem Range.of_read_eq_ok {r : Range} {s : String} {n : Int} (h : r.read s = .ok n) :
    r.least ≤ n ∧ n ≤ r.most := by
  unfold Range.read at h
  cases hs : integer? r.signed s with
  | none => grind
  | some m =>
    have hm : m = n ∧ r.least ≤ m ∧ m ≤ r.most := by grind
    exact hm.1 ▸ hm.2

namespace Argument

/-- The argument takes the value. -/
def Reads (a : Argument) (value : String) : Prop := ∃ n, a.read value = .ok n

theorem mem_range_of_reads {a : Argument} {r : Range} (hr : a.range? = some r) {value : String}
    (h : a.Reads value) : ∃ n, a.read value = .ok n ∧ r.least ≤ n ∧ n ≤ r.most := by
  obtain ⟨n, hn⟩ := h
  refine ⟨n, hn, Range.of_read_eq_ok (s := value) ?_⟩
  rw [← hn, read, hr]

/-- A default passes the check of its own argument. -/
theorem reads_default {a : Argument} {value : String} (h : a.form.default = some value) :
    a.Reads value := by
  cases a <;> cases h
  · exact ⟨8080, rfl⟩
  · exact ⟨10, rfl⟩
  · exact ⟨5, rfl⟩
  · exact ⟨60, rfl⟩
  · exact ⟨15, rfl⟩
  · exact ⟨10080, rfl⟩

/-- What has a range has a default. -/
theorem default_ne_none {a : Argument} {r : Range} (hr : a.range? = some r) :
    a.form.default ≠ none := by
  cases a <;> cases hr <;> nofun

end Argument

namespace State

/-- Every value that is kept has been read by its argument. -/
def Checked (s : State) : Prop := ∀ e ∈ s.values, e.1.Reads e.2

variable {s s' : State} {a : Argument}

theorem checked_start : start.Checked := nofun

theorem Checked.put {value : String} (hs : s.Checked) (h : s.put a value = .ok s') :
    s'.Checked := by
  unfold State.put at h
  split at h
  next n hn =>
    cases h
    intro e he
    rcases List.mem_cons.mp he with rfl | he
    · exact ⟨n, hn⟩
    · exact hs e (List.mem_filter.mp he).1
  next => cases h

theorem Checked.assign {value : String} (hs : s.Checked) (h : s.assign a value = .ok s') :
    s'.Checked := by
  unfold State.assign at h
  split at h
  next => cases h
  next => exact hs.put h

theorem Checked.settle (hs : s.Checked) (h : s.settle = .ok s') : s'.Checked := by
  unfold State.settle at h
  split at h
  next =>
    cases h
    exact hs
  next => cases h
  next => exact Checked.assign (s := { s with pending := none }) hs h

theorem Checked.flag {long : Bool} (hs : s.Checked) (h : s.flag a long = .ok s') :
    s'.Checked := by
  obtain ⟨s₁, hsettle, h⟩ := ok_of_bind h
  have hs₁ := hs.settle hsettle
  split at h
  next => cases h
  next => cases h
  next => exact hs₁.put h

theorem Checked.option {attached : Option String} (hs : s.Checked)
    (h : s.option a attached = .ok s') : s'.Checked := by
  obtain ⟨s₁, hsettle, h⟩ := ok_of_bind h
  have hs₁ := hs.settle hsettle
  cases attached with
  | some value => exact hs₁.assign h
  | none =>
    cases h
    exact hs₁

theorem Checked.shorts {letters : List Char} (hs : s.Checked)
    (h : shorts letters s = .ok s') : s'.Checked := by
  induction letters generalizing s with
  | nil =>
    cases h
    exact hs
  | cons c rest ih =>
    unfold State.shorts at h
    split at h
    next => cases h
    next =>
      split at h
      next =>
        split at h
        next => exact hs.option h
        next => exact hs.option h
        next => exact hs.option h
      next =>
        obtain ⟨s₁, hflag, h⟩ := ok_of_bind h
        exact ih (hs.flag hflag) h

theorem Checked.long {text : List Char} (hs : s.Checked) (h : long text s = .ok s') :
    s'.Checked := by
  unfold State.long at h
  dsimp only at h
  split at h
  next => cases h
  next =>
    split at h
    next => exact hs.option h
    next =>
      split at h
      next => cases h
      next => exact hs.flag h

theorem Checked.step {arg : String} (hs : s.Checked) (h : s.step arg = .ok s') :
    s'.Checked := by
  unfold State.step at h
  split at h
  next => cases h
  next =>
    split at h
    next =>
      cases h
      exact hs
    next => exact hs.long h
    next => exact hs.shorts h
    next =>
      split at h
      next =>
        cases h
        exact hs
      next => cases h

theorem Checked.adopt {env : Environment} (hs : s.Checked) (h : s.adopt env a = .ok s') :
    s'.Checked := by
  unfold State.adopt at h
  split at h
  next => exact hs.put h
  next =>
    cases h
    exact hs

theorem Checked.reads (hs : s.Checked) {value : String}
    (h : (s.value? a).or a.form.default = some value) : a.Reads value := by
  rcases Option.or_eq_some_iff.mp h with h | ⟨-, h⟩
  · obtain ⟨e, he, rfl⟩ := Option.map_eq_some_iff.mp h
    have hname : e.1 = a := by simpa using List.find?_some he
    exact hname ▸ hs e (List.mem_of_find?_eq_some he)
  · exact Argument.reads_default h

/-- A number the server starts with is in the range of its argument. -/
theorem Checked.number_mem_range (hs : s.Checked) {r : Range} (hr : a.range? = some r) :
    r.least ≤ s.number a ∧ s.number a ≤ r.most := by
  obtain ⟨value, hvalue⟩ : ∃ value, (s.value? a).or a.form.default = some value := by
    refine Option.ne_none_iff_exists'.mp fun h => ?_
    exact Argument.default_ne_none hr (Option.or_eq_none_iff.mp h).2
  obtain ⟨n, hn, hrange⟩ := Argument.mem_range_of_reads hr (hs.reads hvalue)
  have hnumber : s.number a = n := by
    rw [number, hvalue]
    simp [hn, Except.toOption]
  rwa [hnumber]

end State

/-- An accepted command line is read off a state whose values have all been checked. -/
theorem exists_checked_of_parse {env : Environment} {args : List String} {a : ServerArguments}
    (h : parse env args = .ok a) : ∃ s : State, s.Checked ∧ a = s.arguments := by
  obtain ⟨s₁, hargs, h⟩ := ok_of_bind h
  obtain ⟨s₂, hsettle, h⟩ := ok_of_bind h
  obtain ⟨s₃, hadopt, h⟩ := ok_of_bind h
  have h₁ : s₁.Checked := holds_of_foldlM (fun _ _ _ hs h => hs.step h) State.checked_start hargs
  have h₃ : s₃.Checked :=
    holds_of_foldlM (fun _ _ _ hs h => State.Checked.adopt hs h) (h₁.settle hsettle) hadopt
  refine ⟨s₃, h₃, ?_⟩
  split at h
  next => cases h
  next =>
    cases h
    rfl

end Turnstile.Cli

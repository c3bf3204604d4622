/-! Computations that may fail, taken apart: what a result says about the steps that led to it. -/
namespace Turnstile

variable {ε α β : Type} {x : Except ε α} {b : β}

theorem ok_of_bind {f : α → Except ε β} (h : x >>= f = .ok b) : ∃ a, x = .ok a ∧ f a = .ok b :=
  match x, h with
  | .ok a, h => ⟨a, rfl, h⟩

/-- The first step that fails decides. -/
theorem error_of_bind {f : α → Except ε β} {e : ε} (h : x >>= f = .error e) :
    x = .error e ∨ ∃ a, x = .ok a ∧ f a = .error e :=
  match x, h with
  | .ok a, h => .inr ⟨a, rfl, h⟩
  | .error _, h => .inl (congrArg Except.error (Except.error.inj h))

theorem ok_of_map {f : α → β} (h : x.map f = .ok b) : ∃ a, x = .ok a ∧ f a = b :=
  match x, h with
  | .ok a, h => ⟨a, rfl, Except.ok.inj h⟩

/-- A fold that fails does so at one of the items. -/
theorem error_of_foldlM {f : β → α → Except ε β} {l : List α} {e : ε}
    (h : l.foldlM f b = .error e) : ∃ a ∈ l, ∃ b', f b' a = .error e := by
  induction l generalizing b with
  | nil => cases h
  | cons a rest ih =>
    rw [List.foldlM_cons] at h
    rcases error_of_bind h with h | ⟨b', -, h⟩
    · exact ⟨a, List.mem_cons_self, b, h⟩
    · obtain ⟨a', hmem, hf⟩ := ih h
      exact ⟨a', List.mem_cons_of_mem a hmem, hf⟩

/-- What every step keeps holds when a fold gets to its end. -/
theorem holds_of_foldlM {f : β → α → Except ε β} {p : β → Prop} {l : List α} {c : β}
    (hstep : ∀ b a b', p b → f b a = .ok b' → p b') (hb : p b) (h : l.foldlM f b = .ok c) :
    p c := by
  induction l generalizing b with
  | nil =>
    cases h
    exact hb
  | cons a rest ih =>
    rw [List.foldlM_cons] at h
    obtain ⟨b', ha, hrest⟩ := ok_of_bind h
    exact ih (hstep b a b' hb ha) hrest

end Turnstile

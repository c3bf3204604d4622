import Mathlib.Data.List.TakeWhile

/-! Texts taken apart: up to the first character that fails a test, and at the first or the last of
the separators in them. -/
namespace Turnstile

section Stop

variable {α : Type} {p : α → Bool} {s rest : List α}

/-- Taking goes exactly as far as the test holds. -/
theorem takeWhile_append_stop (hs : ∀ c ∈ s, p c = true) (hrest : ∀ c ∈ rest.head?, p c = false) :
    (s ++ rest).takeWhile p = s := by
  rw [List.takeWhile_append_of_pos hs]
  cases rest with
  | nil => simp
  | cons c rest => simp [hrest c rfl]

theorem dropWhile_append_stop (hs : ∀ c ∈ s, p c = true) (hrest : ∀ c ∈ rest.head?, p c = false) :
    (s ++ rest).dropWhile p = rest := by
  rw [List.dropWhile_append_of_pos hs]
  cases rest with
  | nil => simp
  | cons c rest => simp [hrest c rfl]

theorem dropWhile_of_head? (hs : ∀ c ∈ s.head?, p c = false) : s.dropWhile p = s :=
  dropWhile_append_stop (s := []) nofun hs

theorem head?_dropWhile {c : α} (h : c ∈ (s.dropWhile p).head?) : p c = false := by
  have hnot := List.head?_dropWhile_not p s
  rw [h] at hnot
  simpa using hnot

theorem drop_length_takeWhile (p : α → Bool) (s : List α) :
    s.drop (s.takeWhile p).length = s.dropWhile p := by
  induction s with
  | nil => rfl
  | cons c s ih => by_cases h : p c <;> simp [h, ih]

end Stop

section Separator

variable {α : Type} [DecidableEq α] {c : α} {s t : List α}

theorem takeWhile_ne_of_not_mem (h : c ∉ s) : s.takeWhile (· ≠ c) = s :=
  List.takeWhile_eq_self_iff.mpr fun _ hd => decide_eq_true fun he => h (he ▸ hd)

theorem takeWhile_ne_append (h : c ∉ s) (t : List α) : (s ++ c :: t).takeWhile (· ≠ c) = s :=
  takeWhile_append_stop (fun _ hd => decide_eq_true fun he => h (he ▸ hd)) (by simp)

/-- From its end a text is read back to the last separator. -/
theorem takeWhile_ne_reverse (s : List α) (h : c ∉ t) :
    (s ++ c :: t).reverse.takeWhile (· ≠ c) = t.reverse := by
  rw [List.reverse_append, List.reverse_cons, List.append_assoc]
  exact takeWhile_ne_append (by simpa using h) s.reverse

omit [DecidableEq α] in
theorem exists_last_separator (h : c ∈ s) : ∃ t u, s = t ++ c :: u ∧ c ∉ u := by
  obtain ⟨u, t, hs, hu⟩ := List.eq_append_cons_of_mem (List.mem_reverse.mpr h)
  refine ⟨t.reverse, u.reverse, ?_, by simpa using hu⟩
  rw [← List.reverse_reverse s, hs]
  simp

end Separator

end Turnstile

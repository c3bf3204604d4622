import Turnstile.Text.Pattern

/-! Patterns and the texts they stand for. A text matches if it falls into parts, one for each piece
of the pattern, in order. Going through the text character by character finds such parts whenever
there are any, wherever they are cut. -/
namespace Turnstile.Text

/-- The part is made of the piece's characters, and of one only if the piece does not repeat. -/
structure Piece.Fits (piece : Piece) (part : List Char) : Prop where
  chars : ∀ c ∈ part, piece.chars.contains c = true
  ne_nil : part ≠ []
  once : piece.repeats = false → part.length = 1

theorem Piece.fits_only_iff {d : Char} {part : List Char} :
    Fits ⟨.only d, false⟩ part ↔ part = [d] := by
  constructor
  · rintro ⟨hchars, -, honce⟩
    obtain ⟨c, rfl⟩ := List.length_eq_one_iff.mp (honce rfl)
    simpa [CharClass.contains] using hchars
  · rintro rfl
    exact ⟨by simp [CharClass.contains], List.cons_ne_nil _ _, fun _ => rfl⟩

namespace Pattern

/-- The text falls into parts that fit the pieces. -/
def Matches : Pattern → List Char → Prop
  | [], s => s = []
  | piece :: rest, s => ∃ part tail, s = part ++ tail ∧ piece.Fits part ∧ Matches rest tail

variable {p q : Pattern} {c : Char} {s : List Char}

theorem matches_nil_iff : p.Matches [] ↔ p = [] := by
  cases p with
  | nil => exact iff_of_true rfl rfl
  | cons piece rest =>
    refine iff_of_false ?_ (List.cons_ne_nil _ _)
    rintro ⟨part, tail, heq, hfits, -⟩
    exact hfits.ne_nil (List.append_eq_nil_iff.mp heq.symm).1

theorem mem_after_cons {piece : Piece} {rest : Pattern} :
    q ∈ after c (piece :: rest) ↔
      piece.chars.contains c = true ∧ (q = rest ∨ piece.repeats = true ∧ q = piece :: rest) := by
  unfold after
  by_cases hc : piece.chars.contains c = true
  · cases hrepeats : piece.repeats <;> simp [hc, hrepeats]
  · simp [hc]

/-- After its first character a text matches one of what is left of the pattern. -/
theorem matches_cons_iff : p.Matches (c :: s) ↔ ∃ q ∈ after c p, q.Matches s := by
  cases p with
  | nil => simp [Matches, after]
  | cons piece rest =>
    simp only [mem_after_cons]
    constructor
    · rintro ⟨part, tail, heq, ⟨hchars, hne, honce⟩, hrest⟩
      obtain ⟨d, part, rfl⟩ := List.exists_cons_of_ne_nil hne
      obtain ⟨rfl, rfl⟩ := List.cons.inj heq
      have hc := hchars c List.mem_cons_self
      -- The first part either ends with this character or goes on.
      cases part with
      | nil => exact ⟨rest, ⟨hc, .inl rfl⟩, hrest⟩
      | cons d part =>
        have hrepeats : piece.repeats = true := by
          cases h : piece.repeats with
          | true => rfl
          | false => exact absurd (honce h) (by simp)
        refine ⟨piece :: rest, ⟨hc, .inr ⟨hrepeats, rfl⟩⟩, d :: part, tail, rfl, ?_, hrest⟩
        exact ⟨fun x hx => hchars x (List.mem_cons_of_mem _ hx), List.cons_ne_nil _ _,
          fun h => absurd hrepeats (by simp [h])⟩
    · rintro ⟨q, ⟨hc, rfl | ⟨hrepeats, rfl⟩⟩, hmatches⟩
      · exact ⟨[c], s, rfl, ⟨by simpa using hc, List.cons_ne_nil _ _, fun _ => rfl⟩, hmatches⟩
      · obtain ⟨part, tail, rfl, hfits, hrest⟩ := hmatches
        exact ⟨c :: part, tail, rfl, ⟨List.forall_mem_cons.mpr ⟨hc, hfits.chars⟩,
          List.cons_ne_nil _ _, fun h => absurd hrepeats (by simp [h])⟩, hrest⟩

theorem mem_step {places : List Pattern} : q ∈ step places c ↔ ∃ p ∈ places, q ∈ after c p := by
  simp [step]

/-- Nothing is left of the pattern exactly if one of the places had what matches the rest ahead. -/
theorem nil_mem_foldl_step {places : List Pattern} :
    [] ∈ s.foldl step places ↔ ∃ p ∈ places, p.Matches s := by
  induction s generalizing places with
  | nil => simp [matches_nil_iff]
  | cons c s ih =>
    rw [List.foldl_cons, ih]
    simp only [mem_step, matches_cons_iff]
    constructor
    · rintro ⟨q, ⟨p, hp, hq⟩, hmatches⟩
      exact ⟨p, hp, q, hq, hmatches⟩
    · rintro ⟨p, hp, q, hq, hmatches⟩
      exact ⟨q, ⟨p, hp, hq⟩, hmatches⟩

theorem accepts_iff : p.accepts s = true ↔ p.Matches s := by
  rw [accepts, List.contains_iff_mem, nil_mem_foldl_step]
  simp

end Pattern

end Turnstile.Text

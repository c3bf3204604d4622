import Mathlib.Data.String.Basic
import Mathlib.Tactic.SplitIfs
import Turnstile.Digest.Bytes

/-! The order of texts. Texts are compared character by character, and this is the order of their
bytes in UTF-8: a wider character begins with a greater byte, and characters of one width are
compared by six bits at a time. -/
namespace Turnstile.Bytes

theorem ofText_eq (s : String) : ofText s = s.toList.flatMap String.utf8EncodeChar := by
  have h : s.toUTF8 = s.toList.utf8Encode := by
    rw [← String.toByteArray_ofList, String.ofList_toList]
    rfl
  rw [ofText, h, List.utf8Encode]
  simp

variable {m n : Nat}

theorem cons_lt_cons (h : m < n) (hn : n < 256) (x y : Bytes) :
    UInt8.ofNat m :: x < UInt8.ofNat n :: y := by
  rw [List.cons_lt_cons_iff, UInt8.lt_iff_toNat_lt, UInt8.toNat_ofNat', UInt8.toNat_ofNat']
  exact .inl (by omega)

/-- A number in as many bytes of six bits each as given, after a first one that is marked. -/
def sixes (mark : Nat) : Nat → Nat → Bytes
  | 0, n => [UInt8.ofNat (n + mark)]
  | count + 1, n => sixes mark count (n / 64) ++ [UInt8.ofNat (n % 64 + 128)]

theorem sixes_lt_sixes {mark count : Nat} (h : m < n) (hn : n / 64 ^ count + mark < 256)
    (x y : Bytes) : sixes mark count m ++ x < sixes mark count n ++ y := by
  induction count generalizing m n x y with
  | zero =>
    rw [Nat.pow_zero, Nat.div_one] at hn
    exact cons_lt_cons (by omega) hn x y
  | succ count ih =>
    rw [Nat.pow_succ', ← Nat.div_div_eq_div_mul] at hn
    rw [sixes, sixes, List.append_assoc, List.append_assoc]
    -- Either the higher bits differ, or they have the same bytes and the lowest six decide.
    rcases Nat.lt_or_eq_of_le (Nat.div_le_div_right (c := 64) (Nat.le_of_lt h)) with hdiv | hdiv
    · exact ih hdiv hn _ _
    · rw [hdiv]
      exact List.append_left_lt (cons_lt_cons (by omega) (by omega) x y)

theorem sixes_eq_cons (mark count n : Nat) :
    ∃ rest, sixes mark count n = UInt8.ofNat (n / 64 ^ count + mark) :: rest := by
  induction count generalizing n with
  | zero => exact ⟨[], by rw [Nat.pow_zero, Nat.div_one]; rfl⟩
  | succ count ih =>
    obtain ⟨rest, hrest⟩ := ih (n / 64)
    rw [Nat.div_div_eq_div_mul, ← Nat.pow_succ'] at hrest
    exact ⟨rest ++ [UInt8.ofNat (n % 64 + 128)], by rw [sixes, hrest, List.cons_append]⟩

theorem sixes_lt_of_first {mark mark' count count' : Nat}
    (h : m / 64 ^ count + mark < n / 64 ^ count' + mark') (hn : n / 64 ^ count' + mark' < 256)
    (x y : Bytes) : sixes mark count m ++ x < sixes mark' count' n ++ y := by
  obtain ⟨rest, hm⟩ := sixes_eq_cons mark count m
  obtain ⟨rest', hn'⟩ := sixes_eq_cons mark' count' n
  rw [hm, hn', List.cons_append, List.cons_append]
  exact cons_lt_cons h hn _ _

/-- The first byte is marked with the number of those that follow it. -/
theorem encodeChar_eq (c : Char) : String.utf8EncodeChar c =
    if c.toNat ≤ 127 then sixes 0 0 c.toNat
    else if c.toNat ≤ 2047 then sixes 192 1 c.toNat
    else if c.toNat ≤ 65535 then sixes 224 2 c.toNat
    else sixes 240 3 c.toNat := by
  have hbound : c.toNat < 1114112 :=
    c.valid.elim (fun h => Nat.lt_trans h (by decide)) And.right
  have hdiv (n : Nat) : n / 4096 = n / 64 / 64 ∧ n / 262144 = n / 64 / 64 / 64 := by omega
  unfold String.utf8EncodeChar
  dsimp only [Char.toNat] at hbound ⊢
  split_ifs
  · rfl
  · rw [Nat.mod_eq_of_lt (a := c.val.toNat / 64) (by omega)]
    rfl
  · rw [Nat.mod_eq_of_lt (a := c.val.toNat / 4096) (by omega), (hdiv _).1]
    rfl
  · rw [Nat.mod_eq_of_lt (a := c.val.toNat / 262144) (by omega), (hdiv _).1, (hdiv _).2]
    rfl

/-- Of two characters of one width the six bits that differ first decide, and a wider one begins
with a greater byte. -/
theorem encodeChar_lt {c d : Char} (h : c < d) (x y : Bytes) :
    String.utf8EncodeChar c ++ x < String.utf8EncodeChar d ++ y := by
  have hlt : c.toNat < d.toNat := h
  have hd : d.toNat < 1114112 := d.valid.elim (fun h => Nat.lt_trans h (by decide)) And.right
  rw [encodeChar_eq, encodeChar_eq]
  split_ifs
  all_goals try omega
  all_goals first
    | exact sixes_lt_sixes hlt (by omega) x y
    | exact sixes_lt_of_first (by omega) (by omega) x y

theorem encodeChar_ne_nil (c : Char) : String.utf8EncodeChar c ≠ [] := by
  have hsixes (mark count n : Nat) : sixes mark count n ≠ [] := by
    obtain ⟨rest, h⟩ := sixes_eq_cons mark count n
    exact h ▸ List.cons_ne_nil _ _
  rw [encodeChar_eq]
  split_ifs <;> exact hsixes _ _ _

theorem encode_lt {s t : List Char} (h : s < t) :
    s.flatMap String.utf8EncodeChar < t.flatMap String.utf8EncodeChar := by
  induction s generalizing t with
  | nil =>
    cases t with
    | nil => exact absurd h (List.lt_irrefl _)
    | cons d t =>
      obtain ⟨b, bs, hb⟩ := List.exists_cons_of_ne_nil (encodeChar_ne_nil d)
      rw [List.flatMap_nil, List.flatMap_cons, hb]
      exact List.nil_lt_cons _ _
  | cons c s ih =>
    cases t with
    | nil => cases h
    | cons d t =>
      rw [List.flatMap_cons, List.flatMap_cons]
      rcases List.cons_lt_cons_iff.mp h with hlt | ⟨rfl, hrest⟩
      · exact encodeChar_lt hlt _ _
      · exact List.append_left_lt (ih hrest)

/-- The order of texts is that of their bytes. -/
theorem ofText_lt_iff {s t : String} : ofText s < ofText t ↔ s < t := by
  rw [ofText_eq, ofText_eq, String.lt_iff_toList_lt]
  refine ⟨fun h => ?_, encode_lt⟩
  rcases lt_trichotomy s.toList t.toList with hlt | heq | hgt
  · exact hlt
  · rw [heq] at h
    exact absurd h (List.lt_irrefl _)
  · exact absurd (encode_lt hgt) (List.lt_asymm h)

end Turnstile.Bytes

import Turnstile.Base64
import Turnstile.Uuid

/-! What is encoded is decoded again: bytes in base64, texts in UTF-8, identifiers in hexadecimal. -/
namespace Turnstile

namespace Base64

theorem value?_char_of_lt (a : Alphabet) {n : Nat} (h : n < 64) : a.value? (a.char n) = some n :=
  a.value?_char ⟨n, h⟩

theorem byte_eq {n : Nat} {x : UInt8} (h : n % 256 = x.toNat) : UInt8.ofNat n = x :=
  UInt8.toNat_inj.mp (by rw [UInt8.toNat_ofNat', h])

/-- Every byte string is read back from its spelling. The bounds on the bytes let the digits of a
group be put together again. -/
theorem decode?_encode (a : Alphabet) (b : Bytes) : decode? a (encode a b) = some b := by
  fun_induction encode a b with
  | case1 x y z rest n ih =>
    have hx := x.toNat_lt
    have hy := y.toNat_lt
    have hz := z.toNat_lt
    rw [decode?, value?_char_of_lt a (by omega), value?_char_of_lt a (by omega),
      value?_char_of_lt a (by omega), value?_char_of_lt a (by omega), ih]
    dsimp only [bind, Option.bind]
    rw [byte_eq (x := x) (by omega), byte_eq (x := y) (by omega), byte_eq (x := z) (by omega)]
  | case2 x y n =>
    have hx := x.toNat_lt
    have hy := y.toNat_lt
    rw [decode?, value?_char_of_lt a (by omega), value?_char_of_lt a (by omega),
      value?_char_of_lt a (by omega)]
    dsimp only [bind, Option.bind]
    rw [if_pos (by omega), byte_eq (x := x) (by omega), byte_eq (x := y) (by omega)]
  | case3 x n =>
    have hx := x.toNat_lt
    rw [decode?, value?_char_of_lt a (by omega), value?_char_of_lt a (by omega)]
    dsimp only [bind, Option.bind]
    rw [if_pos (by omega), byte_eq (x := x) (by omega)]
  | case4 => rfl

/-- Beyond the alphabet the last character stands in. -/
theorem exists_fin_char (a : Alphabet) (n : Nat) : ∃ m : Fin 64, a.char n = a.char m := by
  by_cases h : n < 64
  · exact ⟨⟨n, h⟩, rfl⟩
  · refine ⟨⟨63, by decide⟩, ?_⟩
    unfold Alphabet.char
    rw [if_neg (by omega), if_neg (by omega), if_neg (by omega), if_neg (by omega)]
    rfl

/-- What holds of the 64 characters holds of every encoded text. -/
theorem forall_mem_encode {a : Alphabet} {p : Char → Prop} (h : ∀ m : Fin 64, p (a.char m))
    (b : Bytes) : ∀ c ∈ encode a b, p c := by
  have hchar (n : Nat) : p (a.char n) := by
    obtain ⟨m, hm⟩ := exists_fin_char a n
    exact hm ▸ h m
  fun_induction encode a b with
  | case1 x y z rest n ih => simpa [hchar] using ih
  | case2 | case3 | case4 => simp [hchar]

theorem length_encode (a : Alphabet) (b : Bytes) :
    (encode a b).length = (4 * b.length + 2) / 3 := by
  fun_induction encode a b with
  | case1 x y z rest n ih =>
    simp only [List.length_cons, ih]
    omega
  | case2 | case3 | case4 => simp

end Base64

theorem Bytes.toText?_ofText (s : String) : toText? (ofText s) = some s := by
  unfold toText? ofText String.fromUTF8?
  have hvalid : (⟨s.toUTF8.data.toList.toArray⟩ : ByteArray).IsValidUTF8 := s.isValidUTF8
  rw [dif_pos hvalid]
  rfl

theorem Hex.value?_digit_of_lt {n : Nat} (h : n < 16) : value? (digit n) = some n :=
  value?_digit ⟨n, h⟩

theorem Hex.mapM_value?_digit {ds : List Nat} (h : ∀ d ∈ ds, d < 16) :
    (ds.map digit).mapM value? = some ds := by
  induction ds with
  | nil => rfl
  | cons d ds ih =>
    have hd := value?_digit_of_lt (h d (by simp))
    have hds := ih fun d hmem => h d (by simp [hmem])
    simp [hd, hds]

namespace Uuid

/-- The low hexadecimal digits of a number, most significant first. -/
def hexDigits (count n : Nat) : List Nat :=
  (List.range count).map fun i => (n >>> (4 * (count - 1 - i))) % 16

theorem hexDigits_succ (count n : Nat) :
    hexDigits (count + 1) n = hexDigits count (n / 16) ++ [n % 16] := by
  unfold hexDigits
  rw [List.range_succ, List.map_append]
  congr 1
  · apply List.map_congr_left
    intro i hi
    have hi := List.mem_range.mp hi
    rw [show 4 * (count + 1 - 1 - i) = 4 + 4 * (count - 1 - i) by omega, Nat.shiftRight_add,
      Nat.shiftRight_eq_div_pow n 4]
  · simp

theorem foldl_hexDigits (count n : Nat) :
    (hexDigits count n).foldl (fun n d => 16 * n + d) 0 = n % Nat.pow 16 count := by
  induction count generalizing n with
  | zero => simp [hexDigits, Nat.mod_one]
  | succ count ih =>
    have hpow : Nat.pow 16 (count + 1) = 16 * Nat.pow 16 count := Nat.mul_comm ..
    rw [hexDigits_succ, List.foldl_append, ih, hpow, Nat.mod_mul]
    exact Nat.add_comm ..

theorem digits_eq (u : Uuid) : u.digits = (hexDigits 32 u.bits.toNat).map Hex.digit := by
  simp [digits, hexDigits, Function.comp_def]

@[simp] theorem length_digits (u : Uuid) : u.digits.length = 32 := by simp [digits]

theorem ofDigits?_digits (u : Uuid) : ofDigits? u.digits = some u := by
  have hlt : ∀ d ∈ hexDigits 32 u.bits.toNat, d < 16 := by
    intro d hd
    obtain ⟨i, -, rfl⟩ := List.mem_map.mp hd
    exact Nat.mod_lt _ (by decide)
  unfold ofDigits?
  rw [if_pos u.length_digits, digits_eq, Hex.mapM_value?_digit hlt, Option.map_some,
    foldl_hexDigits]
  have hbits : u.bits.toNat % Nat.pow 16 32 = u.bits.toNat := Nat.mod_eq_of_lt u.bits.isLt
  rw [hbits, BitVec.ofNat_toNat, BitVec.setWidth_eq]

/-- The hyphens between groups of the right lengths are passed over. -/
theorem ofHyphenated?_groups {a b c d e : List Char} (ha : a.length = 8) (hb : b.length = 4)
    (hc : c.length = 4) (hd : d.length = 4) (he : e.length = 12) :
    ofHyphenated? (a ++ '-' :: b ++ '-' :: c ++ '-' :: d ++ '-' :: e) =
      ofDigits? (a ++ b ++ c ++ d ++ e) := by
  unfold ofHyphenated?
  rw [if_pos (by simp [ha, hb, hc, hd, he])]
  simp (disch := omega) [ha, hb, hc, hd, List.drop_append, List.drop_of_length_le]

theorem ofHyphenated?_text (u : Uuid) : ofHyphenated? u.text = some u := by
  have hrest (k m : Nat) : (u.digits.drop k).take m ++ u.digits.drop (k + m) = u.digits.drop k := by
    rw [← List.drop_drop, List.take_append_drop]
  unfold text
  rw [ofHyphenated?_groups (by simp) (by simp) (by simp) (by simp) (by simp), List.append_assoc,
    List.append_assoc, List.append_assoc, hrest, hrest, hrest, List.take_append_drop,
    ofDigits?_digits]

/-- Every identifier is read back from its written form. -/
theorem parse?_hyphenated (u : Uuid) : parse? u.hyphenated = some u := by
  have hlen : u.text.length = 36 := by simp [text]
  unfold parse? hyphenated ofText?
  rw [String.toList_ofList, hlen]
  exact u.ofHyphenated?_text

end Uuid

end Turnstile

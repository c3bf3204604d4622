import Mathlib.Tactic.SplitIfs
import Turnstile.Json.Reader
import Turnstile.Proofs.ByteOrder
import Turnstile.Proofs.Encodings

/-! Texts in bytes. What is written is ASCII where it has a meaning in JSON, and everything else is
between quotes, so an escaped text is taken to pieces that spell the text again. -/
namespace Turnstile

namespace Bytes

theorem le_of_mem_sixes {mark count n : Nat} (hmark : 128 ≤ mark) (hn : n / 64 ^ count + mark < 256) :
    ∀ b ∈ sixes mark count n, 128 ≤ b.toNat := by
  induction count generalizing n with
  | zero =>
    rw [Nat.pow_zero, Nat.div_one] at hn
    intro b hb
    obtain rfl := List.mem_singleton.mp hb
    rw [UInt8.toNat_ofNat']
    omega
  | succ count ih =>
    rw [Nat.pow_succ', ← Nat.div_div_eq_div_mul] at hn
    intro b hb
    rcases List.mem_append.mp hb with hb | hb
    · exact ih hn b hb
    · obtain rfl := List.mem_singleton.mp hb
      rw [UInt8.toNat_ofNat']
      omega

/-- Beyond ASCII every byte of a character is, too. -/
theorem le_of_mem_encodeChar {c : Char} (h : 128 ≤ c.toNat) :
    ∀ b ∈ String.utf8EncodeChar c, 128 ≤ b.toNat := by
  have hbound : c.toNat < 1114112 :=
    c.valid.elim (fun h => Nat.lt_trans h (by decide)) And.right
  rw [encodeChar_eq]
  split_ifs
  · omega
  · exact le_of_mem_sixes (by decide) (by omega)
  · exact le_of_mem_sixes (by decide) (by omega)
  · exact le_of_mem_sixes (by decide) (by omega)

end Bytes

namespace Json

theorem wire_append (a b : Bytes) : wire (a ++ b) = wire a ++ wire b := List.map_append

theorem toNat_ofUInt8 (b : UInt8) : (Char.ofUInt8 b).toNat = b.toNat := rfl

theorem wire_encodeChar {c : Char} (h : c.toNat < 128) : wire (String.utf8EncodeChar c) = [c] := by
  rw [Bytes.encodeChar_eq, if_pos (by omega)]
  refine congrArg (fun d => [d]) (Char.toNat_inj.mp ?_)
  rw [toNat_ofUInt8, UInt8.toNat_ofNat']
  omega

/-- Characters as they are read. -/
def spelled (cs : List Char) : List Char := wire (cs.flatMap String.utf8EncodeChar)

theorem wire_ofText (s : String) : wire (.ofText s) = spelled s.toList := by
  rw [spelled, Bytes.ofText_eq]

@[simp] theorem spelled_nil : spelled [] = [] := rfl

@[simp] theorem spelled_append (s t : List Char) : spelled (s ++ t) = spelled s ++ spelled t := by
  rw [spelled, List.flatMap_append, wire_append]
  rfl

theorem spelled_cons {c : Char} (h : c.toNat < 128) (s : List Char) :
    spelled (c :: s) = c :: spelled s := by
  rw [spelled, List.flatMap_cons, wire_append, wire_encodeChar h]
  rfl

/-- ASCII is read as it is written. -/
theorem spelled_eq_self {s : List Char} (h : ∀ c ∈ s, c.toNat < 128) : spelled s = s := by
  induction s with
  | nil => rfl
  | cons c s ih =>
    obtain ⟨hc, hs⟩ := List.forall_mem_cons.mp h
    rw [spelled_cons hc, ih hs]

/-! Pieces. -/

/-- A character is written as it is, as a short escape, or as a control character by its number. -/
theorem escapeChar_cases (c : Char) :
    (escapeChar c = [c] ∧ c ≠ '"' ∧ c ≠ '\\' ∧ ¬ c.toNat < 32) ∨
    (c.toNat < 128 ∧ ∃ d, escapeChar c = ['\\', d] ∧ d.toNat < 128 ∧ d ≠ 'u' ∧
      ∀ rest, escape? (d :: rest) = some (.byte c, rest)) ∨
    (c.toNat < 32 ∧ escapeChar c =
      ['\\', 'u', '0', '0', Hex.digit (c.toNat / 16), Hex.digit (c.toNat % 16)]) := by
  unfold escapeChar
  split_ifs with hquote hslash hn hr ht hb hf hcontrol
  · exact .inr (.inl ⟨hquote ▸ by decide, '"', rfl, by decide, by decide,
      fun _ => by rw [hquote]; rfl⟩)
  · exact .inr (.inl ⟨hslash ▸ by decide, '\\', rfl, by decide, by decide,
      fun _ => by rw [hslash]; rfl⟩)
  · exact .inr (.inl ⟨hn ▸ by decide, 'n', rfl, by decide, by decide, fun _ => by rw [hn]; rfl⟩)
  · exact .inr (.inl ⟨hr ▸ by decide, 'r', rfl, by decide, by decide, fun _ => by rw [hr]; rfl⟩)
  · exact .inr (.inl ⟨ht ▸ by decide, 't', rfl, by decide, by decide, fun _ => by rw [ht]; rfl⟩)
  · exact .inr (.inl ⟨hb ▸ by decide, 'b', rfl, by decide, by decide, fun _ => by rw [hb]; rfl⟩)
  · exact .inr (.inl ⟨hf ▸ by decide, 'f', rfl, by decide, by decide, fun _ => by rw [hf]; rfl⟩)
  · exact .inr (.inr ⟨hcontrol, rfl⟩)
  · exact .inl ⟨rfl, hquote, hslash, hcontrol⟩

theorem hexUnit?_low {n : Nat} (h : n < 32) (rest : List Char) :
    hexUnit? ('0' :: '0' :: Hex.digit (n / 16) :: Hex.digit (n % 16) :: rest) = some (n, rest) := by
  have hzero : Hex.value? '0' = some 0 := by decide
  have hhigh := Hex.value?_digit_of_lt (show n / 16 < 16 by omega)
  have hlow := Hex.value?_digit_of_lt (show n % 16 < 16 by omega)
  simp only [hexUnit?, hzero, hhigh, hlow, bind, Option.bind, pure, Option.some.injEq,
    Prod.mk.injEq, and_true]
  omega

/-- Whatever comes before and after, these characters between quotes are taken for these pieces. -/
structure Yields (s : List Char) (ps : List Piece) : Prop where
  length_le : ps.length ≤ s.length
  step : ∀ fuel acc rest,
    piecesFrom (fuel + ps.length) acc (s ++ rest) = piecesFrom fuel (ps.reverse ++ acc) rest

namespace Yields

theorem nil : Yields [] [] := ⟨Nat.le_refl 0, fun _ _ _ => rfl⟩

theorem append {s t : List Char} {ps qs : List Piece} (hs : Yields s ps) (ht : Yields t qs) :
    Yields (s ++ t) (ps ++ qs) := by
  refine ⟨?_, fun fuel acc rest => ?_⟩
  · rw [List.length_append, List.length_append]
    exact Nat.add_le_add hs.length_le ht.length_le
  · rw [List.append_assoc, List.length_append, Nat.add_comm ps.length, ← Nat.add_assoc, hs.step,
      ht.step, List.reverse_append, List.append_assoc]

theorem byte {c : Char} (hquote : c ≠ '"') (hslash : c ≠ '\\') (hcontrol : ¬ c.toNat < 32) :
    Yields [c] [.byte c] := by
  refine ⟨Nat.le_refl 1, fun fuel acc rest => ?_⟩
  rw [List.singleton_append, List.length_singleton, piecesFrom, if_neg hquote, if_neg hslash,
    if_neg hcontrol]
  rfl

theorem escape {s : List Char} {p : Piece} (h : ∀ rest, escape? (s ++ rest) = some (p, rest)) :
    Yields ('\\' :: s) [p] := by
  refine ⟨Nat.succ_le_succ (Nat.zero_le _), fun fuel acc rest => ?_⟩
  rw [List.cons_append, List.length_singleton, piecesFrom, if_neg (by decide), if_pos rfl, h]
  rfl

theorem bytes {s : List Char} (h : ∀ c ∈ s, 128 ≤ c.toNat) : Yields s (s.map .byte) := by
  induction s with
  | nil => exact nil
  | cons c s ih =>
    obtain ⟨hc, hs⟩ := List.forall_mem_cons.mp h
    have hne {d : Char} (hd : d.toNat < 128) : c ≠ d := by
      rintro rfl
      omega
    exact (byte (hne (by decide)) (hne (by decide)) (by omega)).append (ih hs)

theorem flatMap {f : Char → List Char} {g : Char → List Piece} (h : ∀ c, Yields (f c) (g c))
    (cs : List Char) : Yields (cs.flatMap f) (cs.flatMap g) := by
  induction cs with
  | nil => exact nil
  | cons c cs ih => exact (h c).append ih

/-- A text ends with its quote. -/
theorem pieces {s : List Char} {ps : List Piece} (h : Yields s ps) (rest : List Char) :
    pieces (s ++ '"' :: rest) = .ok (ps, rest) := by
  have hlength : (s ++ '"' :: rest).length = s.length - ps.length + rest.length + 1 + ps.length := by
    have hle := h.length_le
    rw [List.length_append, List.length_cons]
    omega
  rw [Json.pieces, hlength, h.step, piecesFrom, if_pos rfl, List.append_nil, List.reverse_reverse]

end Yields

/-- What a written character is taken for: its bytes, unless it is given by its number. -/
def charPieces (c : Char) : List Piece :=
  if (escapeChar c)[1]? = some 'u' then [.unit c.toNat]
  else (wire (String.utf8EncodeChar c)).map .byte

theorem escapeChar_yields (c : Char) : Yields (spelled (escapeChar c)) (charPieces c) := by
  rcases escapeChar_cases c with
    ⟨hc, hquote, hslash, hcontrol⟩ | ⟨hascii, d, hc, hd, hu, hescape⟩ | ⟨hcontrol, hc⟩
  · have hspelled : spelled [c] = wire (String.utf8EncodeChar c) := by simp [spelled]
    rw [charPieces, hc, if_neg (by simp), hspelled]
    by_cases hascii : c.toNat < 128
    · rw [wire_encodeChar hascii]
      exact .byte hquote hslash hcontrol
    · refine .bytes fun x hx => ?_
      obtain ⟨b, hb, rfl⟩ := List.mem_map.mp hx
      exact Bytes.le_of_mem_encodeChar (by omega) b hb
  · rw [charPieces, hc, if_neg (by simp [hu]), wire_encodeChar hascii, spelled_cons (by decide),
      spelled_cons hd, spelled_nil]
    exact .escape hescape
  · have hdigit : ∀ n < 16, (Hex.digit n).toNat < 128 := by decide
    have hhigh := hdigit (c.toNat / 16) (by omega)
    have hlow := hdigit (c.toNat % 16) (by omega)
    have hunit : charPieces c = [.unit c.toNat] := by
      rw [charPieces, hc]
      exact if_pos rfl
    rw [hunit, hc, spelled_eq_self (by simp [hhigh, hlow])]
    refine .escape fun rest => ?_
    exact congrArg (Option.map fun p => (Piece.unit p.1, p.2)) (hexUnit?_low hcontrol rest)

/-! Texts. -/

theorem bytes?_byte (b : Bytes) (ps : List Piece) :
    Piece.bytes? ((wire b).map .byte ++ ps) = (Piece.bytes? ps).map (b ++ ·) := by
  induction b with
  | nil => simp [wire]
  | cons x b ih =>
    have hx : UInt8.ofNat (Char.ofUInt8 x).toNat = x := by
      rw [toNat_ofUInt8, UInt8.ofNat_toNat]
    have hwire : wire (x :: b) = Char.ofUInt8 x :: wire b := rfl
    rw [hwire, List.map_cons, List.cons_append, Piece.bytes?, ih, hx, Option.map_map]
    rfl

theorem bytes?_low {n : Nat} (h : n < 32) (ps : List Piece) :
    Piece.bytes? (.unit n :: ps) =
      (Piece.bytes? ps).map (String.utf8EncodeChar (Char.ofNat n) ++ ·) := by
  have htrail : Piece.isTrail n = false := by
    rw [Piece.isTrail, decide_eq_false (by omega), Bool.false_and]
  have hlead : Piece.isLead (.unit n) = false := by
    rw [Piece.isLead, decide_eq_false (by omega), Bool.false_and]
  rcases ps with _ | ⟨_ | _, ps⟩ <;> simp [Piece.bytes?, htrail, hlead]

theorem bytes?_charPieces (c : Char) (ps : List Piece) :
    Piece.bytes? (charPieces c ++ ps) = (Piece.bytes? ps).map (String.utf8EncodeChar c ++ ·) := by
  unfold charPieces
  split
  next hu =>
    have hcontrol : c.toNat < 32 := by
      rcases escapeChar_cases c with ⟨hc, -⟩ | ⟨-, d, hc, -, hne, -⟩ | ⟨hcontrol, -⟩
      · simp [hc] at hu
      · simp [hc, hne] at hu
      · exact hcontrol
    rw [List.singleton_append, bytes?_low hcontrol, Char.ofNat_toNat]
  next => exact bytes?_byte _ ps

theorem bytes?_flatMap_charPieces (cs : List Char) :
    Piece.bytes? (cs.flatMap charPieces) = some (cs.flatMap String.utf8EncodeChar) := by
  induction cs with
  | nil => rfl
  | cons c cs ih => rw [List.flatMap_cons, bytes?_charPieces, ih, List.flatMap_cons, Option.map_some]

theorem text?_flatMap_charPieces (s : String) :
    Piece.text? (s.toList.flatMap charPieces) = some s := by
  rw [Piece.text?, bytes?_flatMap_charPieces, Option.bind_some, ← Bytes.ofText_eq,
    Bytes.toText?_ofText]

theorem spelled_flatMap (f : Char → List Char) (cs : List Char) :
    spelled (cs.flatMap f) = cs.flatMap fun c => spelled (f c) := by
  induction cs with
  | nil => rfl
  | cons c cs ih => rw [List.flatMap_cons, List.flatMap_cons, spelled_append, ih]

/-- What stands between the quotes of a written text. -/
def inner (s : String) : List Char := spelled (s.toList.flatMap escapeChar)

theorem pieces_inner (s : String) (rest : List Char) :
    pieces (inner s ++ '"' :: rest) = .ok (s.toList.flatMap charPieces, rest) := by
  rw [inner, spelled_flatMap]
  exact (Yields.flatMap escapeChar_yields s.toList).pieces rest

/-- An escaped text is read back. -/
theorem string_inner (s : String) (rest : List Char) :
    string (inner s ++ '"' :: rest) = .ok (s, rest) := by
  simp only [string, pieces_inner, text?_flatMap_charPieces, bind, Except.bind, pure, Except.pure]

theorem skipString_inner (s : String) (rest : List Char) :
    skipString (inner s ++ '"' :: rest) = .ok ("", rest) := by
  simp only [skipString, pieces_inner, Except.map]

theorem spelled_quoted (s : String) : spelled (quoted s) = '"' :: inner s ++ ['"'] := by
  rw [quoted, spelled_append, spelled_cons (by decide), spelled_cons (by decide), spelled_nil]
  rfl

end Json

end Turnstile

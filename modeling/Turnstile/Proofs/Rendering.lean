import Mathlib.Data.List.Forall2
import Turnstile.Proofs.Extent
import Turnstile.Proofs.Spelling
import Turnstile.Proofs.Splitting

/-! What is written is read: each reader takes the compact text of a value of its own shape,
whatever characters its texts have, and stops where that text ends. -/
namespace Turnstile.Json

/-! Values. In a compact text, what follows a value is nothing or a delimiter. -/

def Delimited (rest : List Char) : Prop := ∀ c ∈ rest.head?, c = ',' ∨ c = ']' ∨ c = '}'

/-- The text of a value as it is read. -/
def written (v : Value) : List Char := spelled (chars v)

/-- The reader takes the text of one value for another and stops where it ends. -/
def Takes (read : Reader) (v w : Value) : Prop :=
  ∀ rest, Delimited rest → read (written v ++ rest) = .ok (w, rest)

theorem skipSpace_cons {c : Char} (h : isSpace c = false) (s : List Char) :
    skipSpace (c :: s) = c :: s := by simp [skipSpace, h]

theorem written_text (s : String) (rest : List Char) :
    written (.text s) ++ rest = '"' :: (inner s ++ '"' :: rest) := by
  simp [written, chars, spelled_quoted]

theorem text_takes (s : String) : Takes text (.text s) (.text s) := by
  intro rest _
  rw [written_text, text, skipSpace_cons (by decide)]
  simp only [string_inner, bind, Except.bind, pure, Except.pure]

theorem ignored_takes_text (depth : Nat) (s : String) :
    Takes (ignored (depth + 1)) (.text s) .null := by
  intro rest _
  rw [written_text, ignored, skipSpace_cons (by decide)]
  simp only [skipString_inner, Except.map]

/-! Numbers. -/

theorem le_foldl_digits (ds : List Char) (n : Nat) :
    n ≤ ds.foldl (fun n c => 10 * n + (c.toNat - 48)) n := by
  induction ds generalizing n with
  | nil => exact Nat.le_refl n
  | cons c ds ih => exact Nat.le_trans (show n ≤ 10 * n + (c.toNat - 48) by omega) (ih _)

/-- Digits of a number of 64 bits are all put after the number. -/
theorem absorb_eq {ds : List Char} {n : Nat}
    (h : ds.foldl (fun n c => 10 * n + (c.toNat - 48)) n < 18446744073709551616) :
    absorb n ds = (ds.foldl (fun n c => 10 * n + (c.toNat - 48)) n, 0) := by
  induction ds generalizing n with
  | nil => rfl
  | cons c ds ih =>
    have hnext := le_foldl_digits ds (10 * n + (c.toNat - 48))
    rw [List.foldl_cons] at h
    rw [absorb, if_pos (by omega), ih h, List.foldl_cons]

theorem nearest_le {n : Nat} (h : n ≠ 0) : nearest n ≤ 2 * n := by
  have hplace : Nat.pow 2 (Nat.log2 n - 52) ≤ n :=
    Nat.le_trans (Nat.pow_le_pow_right (by decide) (Nat.sub_le _ _)) (Nat.log2_self_le h)
  have hkept := Nat.div_mul_le_self n (Nat.pow 2 (Nat.log2 n - 52))
  unfold nearest
  dsimp only
  split
  · rw [Nat.add_mul]
    omega
  · omega

theorem tooLarge_eq_false {digits : Nat} (h : digits < 18446744073709551616) :
    tooLarge digits 0 = false := by
  unfold tooLarge
  split
  next => rfl
  next hzero =>
    have hnearest := nearest_le fun hdigits => hzero (.inl hdigits)
    have hone : nearest (Nat.pow 10 (0 : Int).toNat) = 1 := by decide
    have hlt : 2 * 18446744073709551616 < overflow := by decide
    rw [if_neg (by decide), hone]
    exact decide_eq_false (by omega)

theorem Delimited.headD {rest : List Char} (h : Delimited rest) :
    (rest.headD ' ').isDigit = false := by
  cases rest with
  | nil => rfl
  | cons c rest => rcases h c rfl with rfl | rfl | rfl <;> rfl

theorem Delimited.fractionPart? {rest : List Char} (h : Delimited rest) :
    fractionPart? rest = some (none, rest) := by
  cases rest with
  | nil => rfl
  | cons c rest => rcases h c rfl with rfl | rfl | rfl <;> rfl

theorem Delimited.exponentPart? {rest : List Char} (h : Delimited rest) :
    exponentPart? rest = some (none, rest) := by
  cases rest with
  | nil => rfl
  | cons c rest => rcases h c rfl with rfl | rfl | rfl <;> rfl

theorem takeWhile_isDigit {ds rest : List Char} (hds : ∀ c ∈ ds, c.isDigit = true)
    (hrest : Delimited rest) : (ds ++ rest).takeWhile Char.isDigit = ds := by
  refine takeWhile_append_stop hds fun c hc => ?_
  rcases hrest c hc with rfl | rfl | rfl <;> rfl

/-- Only the numeral of zero begins with a zero. -/
theorem toDigits_head?_ne {n : Nat} (h : n ≠ 0) : (Nat.toDigits 10 n).head? ≠ some '0' := by
  induction n using Nat.strongRecOn with
  | ind n ih =>
    by_cases hn : n < 10
    · rw [Nat.toDigits_of_lt_base hn]
      have hall : ∀ m < 10, m ≠ 0 → [Nat.digitChar m].head? ≠ some '0' := by decide
      exact hall n hn h
    · have hhead := ih (n / 10) (by omega) (by omega)
      rw [Nat.toDigits_of_base_le (by decide) (by omega),
        List.head?_append_of_ne_nil _ Nat.toDigits_ne_nil]
      exact hhead

theorem isDigit_of_mem {n : Nat} {c : Char} (h : c ∈ Nat.toDigits 10 n) : c.isDigit = true :=
  Nat.isDigit_of_mem_toDigits (by decide) (by decide) h

theorem natural_toDigits (n : Nat) : natural (Nat.toDigits 10 n) = n := by
  have h := Nat.ofDigitChars_ten_toDigits (n := n)
  rw [Nat.ofDigitChars_eq_foldl] at h
  exact h

theorem wholePart?_toDigits (n : Nat) {rest : List Char} (hrest : Delimited rest) :
    wholePart? (Nat.toDigits 10 n ++ rest) = some (Nat.toDigits 10 n, rest) := by
  unfold wholePart?
  split
  next tail hzero =>
    have hn : n = 0 := by
      by_contra hn
      have hhead := toDigits_head?_ne hn
      rw [← @List.head?_append_of_ne_nil _ _ rest Nat.toDigits_ne_nil, hzero] at hhead
      exact hhead rfl
    subst hn
    obtain rfl : rest = tail := (List.cons.inj hzero).2
    rw [hrest.headD]
    rfl
  next =>
    dsimp only
    rw [takeWhile_isDigit (fun _ => isDigit_of_mem) hrest, if_neg Nat.toDigits_ne_nil,
      List.drop_left]

theorem numeral?_toDigits (n : Nat) {rest : List Char} (hrest : Delimited rest) :
    numeral? (Nat.toDigits 10 n ++ rest) = some (⟨Nat.toDigits 10 n, none, none⟩, rest) := by
  simp only [numeral?, wholePart?_toDigits n hrest, hrest.fractionPart?, hrest.exponentPart?, bind,
    Option.bind, pure]

theorem outOfRange_toDigits {n : Nat} (h : n < 18446744073709551616) :
    Numeral.outOfRange ⟨Nat.toDigits 10 n, none, none⟩ = false := by
  have hn := natural_toDigits n
  unfold natural at hn
  have habsorb : absorb 0 (Nat.toDigits 10 n) = (n, 0) := by
    rw [absorb_eq (by rwa [hn]), hn]
  have hlarge := tooLarge_eq_false h
  simpa [Numeral.outOfRange, Numeral.power, habsorb, absorb] using hlarge

theorem value_toDigits {n : Nat} (negative : Bool) (hzero : negative = true → n ≠ 0) :
    Numeral.value ⟨Nat.toDigits 10 n, none, none⟩ negative =
      .integer (if negative then -(n : Int) else n) := by
  simpa [Numeral.value, natural_toDigits] using hzero

/-- A written integer is its digits after its sign. -/
theorem numeral_eq (n : Int) : numeral n =
    if n < 0 then '-' :: Nat.toDigits 10 n.natAbs else Nat.toDigits 10 n.natAbs := by
  cases n with
  | ofNat n =>
    rw [if_neg (by simp)]
    simp [numeral, toString, Int.repr, Nat.repr]
  | negSucc n =>
    rw [if_pos (by simp)]
    simp [numeral, toString, Int.repr, Nat.repr]

theorem exists_toDigits (n : Nat) : ∃ c ds, Nat.toDigits 10 n = c :: ds ∧ c.isDigit = true := by
  obtain ⟨c, ds, hds⟩ := List.exists_cons_of_ne_nil (Nat.toDigits_ne_nil (n := n) (b := 10))
  exact ⟨c, ds, hds, isDigit_of_mem (n := n) (by simp [hds])⟩

theorem toDigits_append_ne (n : Nat) (rest tail : List Char) :
    Nat.toDigits 10 n ++ rest ≠ '-' :: tail := by
  intro h
  obtain ⟨c, ds, hds, hc⟩ := exists_toDigits n
  rw [hds] at h
  obtain rfl : c = '-' := (List.cons.inj h).1
  cases hc

/-- What a written integer begins with is neither space nor the start of any other value. -/
def Numeric (c : Char) : Prop := c = '-' ∨ c.isDigit = true

instance : DecidablePred Numeric := fun _ => inferInstanceAs (Decidable (_ ∨ _))

theorem exists_numeral (n : Int) : ∃ c ds, numeral n = c :: ds ∧ Numeric c := by
  rw [numeral_eq]
  split
  next => exact ⟨_, _, rfl, .inl rfl⟩
  next =>
    obtain ⟨c, ds, hds, hc⟩ := exists_toDigits n.natAbs
    exact ⟨c, ds, hds, .inr hc⟩

theorem unsigned_of_ne {s : List Char} (h : ∀ rest, s ≠ '-' :: rest) : unsigned s = s := by
  unfold unsigned
  split
  next rest => exact absurd rfl (h rest)
  next => rfl

theorem unsigned_numeral (n : Int) (rest : List Char) :
    unsigned (numeral n ++ rest) = Nat.toDigits 10 n.natAbs ++ rest := by
  rw [numeral_eq]
  split
  next => rfl
  next => exact unsigned_of_ne (toDigits_append_ne _ _)

theorem head?_numeral (n : Int) (rest : List Char) :
    (numeral n ++ rest).head? = some '-' ↔ n < 0 := by
  rw [numeral_eq]
  split
  next h => simp [h]
  next h =>
    obtain ⟨c, ds, hds, hc⟩ := exists_toDigits n.natAbs
    have hne : c ≠ '-' := by
      rintro rfl
      cases hc
    simp [hds, hne, h]

/-- Every integer of 64 bits is read back from its digits. -/
theorem number_numeral {n : Int} (h : n.natAbs < 18446744073709551616) {rest : List Char}
    (hrest : Delimited rest) : number (numeral n ++ rest) = .ok (.integer n, rest) := by
  have hvalue := value_toDigits (n := n.natAbs) (decide (n < 0)) fun hneg => by
    have := of_decide_eq_true hneg
    omega
  have hsign : (if decide (n < 0) then -(n.natAbs : Int) else n.natAbs) = n := by
    simp only [decide_eq_true_eq]
    split <;> omega
  rw [number, unsigned_numeral, numeral?_toDigits _ hrest]
  dsimp only
  rw [outOfRange_toDigits h, if_neg Bool.false_ne_true,
    decide_eq_decide.mpr (head?_numeral n rest), hvalue, hsign]

theorem Numeric.isSpace {c : Char} (h : Numeric c) : isSpace c = false := by
  have hne {d : Char} (hd : ¬ Numeric d) : c ≠ d := fun hc => hd (hc ▸ h)
  simp [Json.isSpace, hne (d := ' ') (by decide), hne (d := '\n') (by decide),
    hne (d := '\t') (by decide), hne (d := '\r') (by decide)]

theorem Numeric.lt {c : Char} (h : Numeric c) : c.toNat < 128 := by
  rcases h with rfl | h
  · decide
  · simp only [Char.isDigit, Bool.and_eq_true, decide_eq_true_eq] at h
    have hle : c.toNat ≤ 57 := h.2
    omega

/-- A written integer is read as it is written. -/
theorem written_integer (n : Int) : written (.integer n) = numeral n := by
  refine spelled_eq_self fun c hc => Numeric.lt ?_
  rw [chars, numeral_eq] at hc
  split at hc
  next =>
    rcases List.mem_cons.mp hc with rfl | hc
    · exact .inl rfl
    · exact .inr (isDigit_of_mem hc)
  next => exact .inr (isDigit_of_mem hc)

theorem integer_takes {n : Int} (h : -9223372036854775808 ≤ n ∧ n ≤ 9223372036854775807) :
    Takes integer (.integer n) (.integer n) := by
  intro rest hrest
  have hnumber := number_numeral (n := n) (by omega) hrest
  obtain ⟨c, ds, hds, hc⟩ := exists_numeral n
  rw [written_integer, integer]
  rw [hds] at hnumber ⊢
  rw [List.cons_append] at hnumber ⊢
  have hstart : c = '-' ∨ c.isDigit = true := hc
  rw [skipSpace_cons (Numeric.isSpace hc)]
  simp [hnumber, hstart, h, bind, Except.bind, pure, Except.pure]

theorem ignored_takes_integer (depth : Nat) (n : Int) :
    Takes (ignored (depth + 1)) (.integer n) .null := by
  intro rest hrest
  have hspace : skipSpace (numeral n ++ rest) = numeral n ++ rest := by
    obtain ⟨c, ds, hds, hc⟩ := exists_numeral n
    rw [hds, List.cons_append, skipSpace_cons (Numeric.isSpace hc)]
  rw [written_integer]
  refine ignored_eq_skipNumber (m := ⟨Nat.toDigits 10 n.natAbs, none, none⟩) ?_
  rw [hspace, unsigned_numeral, numeral?_toDigits _ hrest]

/-! Lists. -/

/-- No value is written with a space or a closing bracket first. -/
theorem written_eq_cons (v : Value) :
    ∃ c tail, written v = c :: tail ∧ isSpace c = false ∧ c ≠ ']' := by
  have hcons {c : Char} {tail : List Char} (hv : chars v = c :: tail) (hc : c.toNat < 128)
      (hspace : isSpace c = false) (hbracket : c ≠ ']') :
      ∃ c tail, written v = c :: tail ∧ isSpace c = false ∧ c ≠ ']' :=
    ⟨c, spelled tail, by rw [written, hv, spelled_cons hc], hspace, hbracket⟩
  have hnumeral {n : Int} {tail : List Char} (hv : chars v = numeral n ++ tail) :
      ∃ c tail, written v = c :: tail ∧ isSpace c = false ∧ c ≠ ']' := by
    obtain ⟨c, ds, hds, hc⟩ := exists_numeral n
    exact hcons (by rw [hv, hds, List.cons_append]) hc.lt (Numeric.isSpace hc)
      fun he => absurd (he ▸ hc : Numeric ']') (by decide)
  cases v with
  | null => exact hcons rfl (by decide) (by decide) (by decide)
  | flag b => cases b <;> exact hcons rfl (by decide) (by decide) (by decide)
  | integer n => exact hnumeral (n := n) (List.append_nil _).symm
  | decimal d e => exact hnumeral rfl
  | text s => exact hcons rfl (by decide) (by decide) (by decide)
  | list xs => exact hcons rfl (by decide) (by decide) (by decide)
  | record ms => exact hcons rfl (by decide) (by decide) (by decide)

theorem spelled_itemChars_cons (x : Value) (xs : List Value) :
    spelled (itemChars (x :: xs)) = written x ++ xs.flatMap fun y => ',' :: written y := by
  induction xs generalizing x with
  | nil => simp [itemChars, written]
  | cons y xs ih =>
    rw [itemChars, spelled_append, spelled_cons (by decide), ih y]
    rfl

theorem Delimited.flatMap {xs : List α} {f : α → List Char} {rest : List Char}
    (hrest : Delimited rest) : Delimited ((xs.flatMap fun x => ',' :: f x) ++ rest) := by
  cases xs with
  | nil => exact hrest
  | cons x xs =>
    intro c hc
    cases hc
    exact .inl rfl

theorem length_le_flatMap (xs : List α) (f : α → List Char) :
    xs.length ≤ (xs.flatMap fun x => ',' :: f x).length := by
  induction xs with
  | nil => simp
  | cons x xs ih =>
    simp only [List.flatMap_cons, List.length_append, List.length_cons]
    omega

/-- An item that starts and is read is put before the others. -/
theorem items_step {read : Reader} {fuel : Nat} {first : Bool} {acc : List Value} {v : Value}
    {s start rest : List Char} (hstart : itemStart? first s = some start)
    (hread : read start = .ok (v, rest)) :
    items read (fuel + 1) first acc s = items read fuel false (v :: acc) rest := by
  rw [items]
  unfold itemStart? at hstart
  generalize skipSpace s = u at hstart ⊢
  cases first with
  | true =>
    obtain ⟨hend, rfl⟩ : u.head? ≠ some ']' ∧ u = start := by simpa using hstart
    split
    next => exact absurd rfl hend
    next => rw [if_pos rfl, hread]
  | false =>
    rcases u with _ | ⟨c, u⟩
    · cases hstart
    by_cases hc : c = ','
    · subst hc
      obtain ⟨hend, rfl⟩ : (skipSpace u).head? ≠ some ']' ∧ skipSpace u = start := by
        simpa using hstart
      split
      next heq => cases heq
      next =>
        rw [if_neg Bool.false_ne_true]
        split
        next heq =>
          cases heq
          split
          next hbracket => exact absurd (by rw [hbracket]; rfl) hend
          next => rw [hread]
        next hne => exact absurd rfl (hne u)
    · simp [hc] at hstart

theorem items_end (read : Reader) (fuel : Nat) (first : Bool) (acc : List Value)
    (rest : List Char) :
    items read (fuel + 1) first acc (']' :: rest) = .ok (acc.reverse, rest) := by
  simp [items, skipSpace_cons (c := ']') (by decide)]

theorem itemStart?_written (v : Value) (rest : List Char) :
    itemStart? true (written v ++ rest) = some (written v ++ rest) ∧
      itemStart? false (',' :: written v ++ rest) = some (written v ++ rest) := by
  obtain ⟨c, tail, hc, hspace, hbracket⟩ := written_eq_cons v
  simp [itemStart?, hc, skipSpace_cons hspace, skipSpace_cons (c := ',') (by decide), hbracket]

theorem delimited_bracket (rest : List Char) : Delimited (']' :: rest) :=
  fun _ hc => .inr (.inl (Option.some.inj hc).symm)

/-- The items after the first, with the bracket that closes them. -/
theorem items_rest {read : Reader} {xs ys : List Value} (h : List.Forall₂ (Takes read) xs ys)
    (rest : List Char) {fuel : Nat} (hfuel : xs.length < fuel) (acc : List Value) :
    items read fuel false acc ((xs.flatMap fun x => ',' :: written x) ++ ']' :: rest) =
      .ok (acc.reverse ++ ys, rest) := by
  obtain ⟨fuel, rfl⟩ := Nat.exists_eq_add_one_of_ne_zero (Nat.ne_zero_of_lt hfuel)
  induction h generalizing fuel acc with
  | nil => simp [items_end]
  | @cons x y xs ys hx hxs ih =>
    rw [List.length_cons] at hfuel
    obtain ⟨fuel, rfl⟩ := Nat.exists_eq_add_one_of_ne_zero (show fuel ≠ 0 by omega)
    rw [List.flatMap_cons, List.append_assoc,
      items_step (itemStart?_written x _).2 (hx _ (delimited_bracket rest).flatMap),
      ih (y :: acc) fuel (by omega)]
    simp

theorem written_list (xs : List Value) (rest : List Char) :
    written (.list xs) ++ rest = '[' :: (spelled (itemChars xs) ++ ']' :: rest) := by
  rw [written, chars, List.cons_append, spelled_cons (by decide), spelled_append,
    spelled_cons (by decide), spelled_nil, List.cons_append, List.append_assoc]
  rfl

/-- A list is taken item by item. -/
theorem items_itemChars {read : Reader} {xs ys : List Value}
    (h : List.Forall₂ (Takes read) xs ys) (rest : List Char) :
    items read ((spelled (itemChars xs) ++ ']' :: rest).length + 1) true []
      (spelled (itemChars xs) ++ ']' :: rest) = .ok (ys, rest) := by
  cases h with
  | nil => exact items_end ..
  | @cons x y xs ys hx hxs =>
    have hlen := length_le_flatMap xs written
    rw [spelled_itemChars_cons, List.append_assoc,
      items_step (itemStart?_written x _).1 (hx _ (delimited_bracket rest).flatMap),
      items_rest hxs rest]
    · simp
    · simp only [List.length_append, List.length_cons]
      omega

theorem list_takes {read : Reader} {xs ys : List Value} (h : List.Forall₂ (Takes read) xs ys) :
    Takes (list read) (.list xs) (.list ys) := by
  intro rest _
  rw [written_list, list, skipSpace_cons (by decide)]
  simp only [items_itemChars h rest, bind, Except.bind, pure, Except.pure]

theorem ignored_takes_list {depth : Nat} {xs ys : List Value}
    (h : List.Forall₂ (Takes (ignored depth)) xs ys) :
    Takes (ignored (depth + 1)) (.list xs) .null := by
  intro rest _
  have hitems := items_itemChars h rest
  rw [written_list, ignored, skipSpace_cons (by decide)]
  simp only [hitems, Except.map]

theorem texts_takes (xs : List String) : Takes (list text) (.texts xs) (.texts xs) :=
  list_takes <| List.forall₂_same.mpr fun _ hv => by
    obtain ⟨s, -, rfl⟩ := List.mem_map.mp hv
    exact text_takes s

theorem ignored_takes_texts (depth : Nat) (xs : List String) :
    Takes (ignored (depth + 2)) (.texts xs) .null := by
  have htexts : List.Forall₂ (Takes (ignored (depth + 1))) (xs.map .text)
      (xs.map fun _ => .null) := by
    rw [List.forall₂_map_left_iff, List.forall₂_map_right_iff, List.forall₂_same]
    exact fun s _ => ignored_takes_text depth s
  exact ignored_takes_list htexts

/-! Records. -/

/-- What the members of a record are taken for, each by the reader its name asks for. -/
inductive Chosen (choose : Members Value) :
    List (String × Value) → List (String × Value) → List (String × Value) → Prop
  | nil (acc : List (String × Value)) : Chosen choose acc [] []
  | cons {acc ms ns : List (String × Value)} {name : String} {read : Reader} {v w : Value}
      (hread : choose acc name = .ok read) (hvalue : Takes read v w)
      (hrest : Chosen choose ((name, w) :: acc) ms ns) :
      Chosen choose acc ((name, v) :: ms) ((name, w) :: ns)

/-- A name, a colon and a value, after the quote of the name. -/
def afterQuote (m : String × Value) : List Char := inner m.1 ++ '"' :: ':' :: written m.2

theorem spelled_memberChars_cons (m : String × Value) (ms : List (String × Value)) :
    spelled (memberChars (m :: ms)) =
      '"' :: afterQuote m ++ ms.flatMap fun n => ',' :: '"' :: afterQuote n := by
  induction ms generalizing m with
  | nil =>
    simp [memberChars, spelled_quoted, spelled_cons (c := ':') (by decide), afterQuote, written]
  | cons n ms ih =>
    rw [memberChars, spelled_append, spelled_append, spelled_quoted, spelled_cons (by decide),
      spelled_cons (by decide), ih n]
    simp [afterQuote, written]

/-- A member that starts and is read is put before the others. -/
theorem members_step {key : ReaderOf String} {choose : Members Value}
    {fuel : Nat} {first : Bool} {acc : List (String × Value)} {name : String} {read : Reader}
    {v : Value} {s start rest value rest' : List Char} (hstart : memberStart? first s = some start)
    (hkey : key start = .ok (name, rest)) (hchoose : choose acc name = .ok read)
    (hcolon : colon rest = .ok value) (hvalue : read value = .ok (v, rest')) :
    members key choose (fuel + 1) first acc s =
      members key choose fuel false ((name, v) :: acc) rest' := by
  rw [members]
  unfold memberStart? separated? at hstart
  generalize skipSpace s = u at hstart ⊢
  rcases u with _ | ⟨c, u⟩
  · cases first <;> cases hstart
  cases first with
  | true =>
    by_cases hc : c = '"'
    · subst hc
      obtain rfl : u = start := by simpa using hstart
      simp [hkey, hchoose, hcolon, hvalue, bind, Except.bind, pure, Except.pure]
    · simp [hc] at hstart
  | false =>
    by_cases hc : c = ','
    · subst hc
      cases hw : skipSpace u with
      | nil => simp [hw] at hstart
      | cons d w =>
        by_cases hd : d = '"'
        · subst hd
          obtain rfl : w = start := by simpa [hw] using hstart
          simp [hw, hkey, hchoose, hcolon, hvalue, bind, Except.bind, pure, Except.pure]
        · simp [hw, hd] at hstart
    · simp [hc] at hstart

theorem members_end (key : ReaderOf String) (choose : Members Value)
    (fuel : Nat) (first : Bool) (acc : List (String × Value)) (rest : List Char) :
    members key choose (fuel + 1) first acc ('}' :: rest) = .ok (acc.reverse, rest) := by
  simp [members, skipSpace_cons (c := '}') (by decide)]

theorem memberStart?_quote (rest : List Char) :
    memberStart? true ('"' :: rest) = some rest ∧
      memberStart? false (',' :: '"' :: rest) = some rest := by
  simp [memberStart?, separated?, skipSpace_cons (c := '"') (by decide),
    skipSpace_cons (c := ',') (by decide)]

theorem colon_cons (rest : List Char) : colon (':' :: rest) = .ok rest := by
  simp [colon, skipSpace_cons (c := ':') (by decide)]

theorem delimited_brace (rest : List Char) : Delimited ('}' :: rest) :=
  fun _ hc => .inr (.inr (Option.some.inj hc).symm)

theorem afterQuote_append (m : String × Value) (rest : List Char) :
    afterQuote m ++ rest = inner m.1 ++ '"' :: ':' :: (written m.2 ++ rest) := by
  simp [afterQuote]

theorem members_rest {choose : Members Value} {acc ms ns : List (String × Value)}
    (h : Chosen choose acc ms ns) (rest : List Char) {fuel : Nat} (hfuel : ms.length < fuel) :
    members string choose fuel false acc
        ((ms.flatMap fun m => ',' :: '"' :: afterQuote m) ++ '}' :: rest) =
      .ok (acc.reverse ++ ns, rest) := by
  obtain ⟨fuel, rfl⟩ := Nat.exists_eq_add_one_of_ne_zero (Nat.ne_zero_of_lt hfuel)
  induction h generalizing fuel with
  | nil acc => simp [members_end]
  | @cons acc ms ns name read v w hread hvalue hrest ih =>
    rw [List.length_cons] at hfuel
    obtain ⟨fuel, rfl⟩ := Nat.exists_eq_add_one_of_ne_zero (show fuel ≠ 0 by omega)
    rw [List.flatMap_cons, List.cons_append, List.cons_append, List.append_assoc, List.cons_append,
      afterQuote_append,
      members_step (memberStart?_quote _).2 (string_inner name _) hread (colon_cons _)
        (hvalue _ (delimited_brace rest).flatMap), ih fuel (by omega)]
    simp

/-- A record is taken member by member. -/
theorem members_memberChars {choose : Members Value} {ms ns : List (String × Value)}
    (h : Chosen choose [] ms ns) (rest : List Char) :
    members string choose ((spelled (memberChars ms) ++ '}' :: rest).length + 1) true []
      (spelled (memberChars ms) ++ '}' :: rest) = .ok (ns, rest) := by
  cases h with
  | nil => exact members_end ..
  | @cons _ ms ns name read v w hread hvalue hrest =>
    have hlen := length_le_flatMap ms fun m => '"' :: afterQuote m
    rw [spelled_memberChars_cons, List.append_assoc, List.cons_append, afterQuote_append,
      members_step (memberStart?_quote _).1 (string_inner name _) hread (colon_cons _)
        (hvalue _ (delimited_brace rest).flatMap), members_rest hrest rest]
    · simp
    · simp only [List.length_append, List.length_cons] at hlen ⊢
      omega

theorem written_record (ms : List (String × Value)) (rest : List Char) :
    written (.record ms) ++ rest = '{' :: (spelled (memberChars ms) ++ '}' :: rest) := by
  rw [written, chars, List.cons_append, spelled_cons (by decide), spelled_append,
    spelled_cons (by decide), spelled_nil, List.cons_append, List.append_assoc]
  rfl

theorem record_takes {strict : Bool} {fields : List Field} {ms ns : List (String × Value)}
    (h : Chosen (fieldReader strict fields) [] ms ns)
    (hrequired : ∀ f ∈ fields, f.presence = .required → f.name ∈ ns.map Prod.fst) :
    Takes (record strict fields) (.record ms) (.record ns) := by
  have hall : (fields.all fun f =>
      f.presence ≠ .required || ns.any (·.1 = f.name)) = true := by
    rw [List.all_eq_true]
    intro f hf
    have hf := hrequired f hf
    rw [Bool.or_eq_true, decide_eq_true_eq, List.any_eq_true]
    by_cases hp : f.presence = .required
    · obtain ⟨n, hn, hname⟩ := List.mem_map.mp (hf hp)
      exact .inr ⟨n, hn, decide_eq_true hname⟩
    · exact .inl hp
  intro rest _
  rw [written_record, record, skipSpace_cons (by decide)]
  simp only [members_memberChars h rest, bind, Except.bind, pure, Except.pure]
  rw [if_pos hall]

/-- A whole text. -/
theorem Takes.read {read : Reader} {v w : Value} (h : Takes read v w) :
    Json.read read (wire (.ofText (render v))) = .ok w := by
  have hread := h [] nofun
  rw [wire_ofText, render, String.toList_ofList]
  rw [List.append_nil] at hread
  have htext : read (spelled (chars v)) = .ok (w, []) := hread
  simp [Json.read, htext, skipSpace, bind, Except.bind, pure, Except.pure]

theorem fieldReader_of_find? {strict : Bool} {fields : List Field} {seen : List (String × Value)}
    {name : String} {f : Field} (hf : fields.find? (·.name = name) = some f)
    (hseen : seen.any (·.1 = name) = false) : fieldReader strict fields seen name = .ok f.read := by
  simp [fieldReader, hf, hseen]

theorem fieldReader_of_find?_eq_none {fields : List Field} {seen : List (String × Value)}
    {name : String} (hf : fields.find? (·.name = name) = none) :
    fieldReader false fields seen name = .ok fun s => ignored (s.length + 1) s := by
  simp [fieldReader, hf]

/-- What is no field's has room for lists of scalars at least. -/
theorem ignored_takes {v : Value} (h : ∀ depth, Takes (ignored (depth + 2)) v .null) :
    Takes (fun s => ignored (s.length + 1) s) v .null := by
  intro rest hrest
  obtain ⟨c, tail, hc, -⟩ := written_eq_cons v
  have htake := h (tail ++ rest).length rest hrest
  rw [hc, List.cons_append] at htake ⊢
  exact htake

end Turnstile.Json

import Turnstile.Text.Hex

/-!
Identifiers of 128 bits. They are written hyphenated in lower case, and read in four spellings:
hyphenated, 32 hexadecimal digits, in braces, and as a URN, each in any case.
-/

namespace Turnstile

structure Uuid where
  bits : BitVec 128
  deriving DecidableEq, Repr

namespace Uuid

instance : Ord Uuid := ⟨fun a b => compare a.bits.toNat b.bits.toNat⟩

theorem bits_toNat_injective {a b : Uuid} (h : a.bits.toNat = b.bits.toNat) : a = b := by
  cases a
  cases b
  exact congrArg Uuid.mk (BitVec.eq_of_toNat_eq h)

instance : Std.TransOrd Uuid where
  eq_swap := Std.OrientedOrd.eq_swap (α := Nat)
  isLE_trans := Std.TransOrd.isLE_trans (α := Nat)

instance : Std.LawfulEqOrd Uuid where
  compare_self := Std.ReflOrd.compare_self (α := Nat)
  eq_of_compare h := bits_toNat_injective (Std.LawfulEqOrd.eq_of_compare h)

/-- The 32 hexadecimal digits, most significant first. -/
def digits (u : Uuid) : List Char :=
  (List.range 32).map fun i => Hex.digit ((u.bits.toNat >>> (4 * (31 - i))) % 16)

def text (u : Uuid) : List Char :=
  let d := u.digits
  d.take 8 ++ '-' :: (d.drop 8).take 4 ++ '-' :: (d.drop 12).take 4 ++ '-' :: (d.drop 16).take 4 ++
    '-' :: d.drop 20

def hyphenated (u : Uuid) : String := String.ofList u.text

/-- Exactly 32 hexadecimal digits. -/
def ofDigits? (s : List Char) : Option Uuid :=
  if s.length = 32 then
    (s.mapM Hex.value?).map fun ds => ⟨BitVec.ofNat 128 (ds.foldl (fun n d => 16 * n + d) 0)⟩
  else none

/-- Groups of 8, 4, 4, 4 and 12 digits with a hyphen between them. -/
def ofHyphenated? (s : List Char) : Option Uuid :=
  if s.length = 36 ∧ s[8]? = some '-' ∧ s[13]? = some '-' ∧ s[18]? = some '-' ∧ s[23]? = some '-' then
    ofDigits? (s.take 8 ++ (s.drop 9).take 4 ++ (s.drop 14).take 4 ++ (s.drop 19).take 4 ++ s.drop 24)
  else none

def urnPrefix : List Char := "urn:uuid:".toList

/-- The spelling is chosen by the number of characters. -/
def ofText? (s : List Char) : Option Uuid :=
  match s.length with
  | 32 => ofDigits? s
  | 36 => ofHyphenated? s
  | 38 =>
    if s.head? = some '{' ∧ s.getLast? = some '}' then ofHyphenated? (s.tail.dropLast) else none
  | 45 =>
    if (s.take 9).map Char.toLower = urnPrefix then ofHyphenated? (s.drop 9) else none
  | _ => none

def parse? (s : String) : Option Uuid := ofText? s.toList

/-- The bits that say how the identifier was made. -/
def version (u : Uuid) : Nat := (u.bits.toNat >>> 76) % 16

/-- A time-ordered identifier: 48 bits of milliseconds, then 74 random bits around the version. -/
def ofTime (millis : Nat) (random : Nat) : Uuid :=
  let high := (millis % (1 <<< 48)) <<< 80
  let mid := (7 <<< 76) ||| ((random % (1 <<< 12)) <<< 64)
  let low := (2 <<< 62) ||| ((random >>> 12) % (1 <<< 62))
  ⟨BitVec.ofNat 128 (high ||| mid ||| low)⟩

end Uuid

end Turnstile

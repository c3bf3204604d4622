/-!
Bytes as lists, with the two ways of laying a word out in them.
-/

namespace Turnstile

abbrev Bytes := List UInt8

namespace Bytes

def ofText (s : String) : Bytes := s.toUTF8.data.toList

/-- The text that the bytes encode, if they are well-formed UTF-8. -/
def toText? (b : Bytes) : Option String := String.fromUTF8? ⟨b.toArray⟩

/-- The low `count` bytes of a number, least significant first. -/
def littleEndian (count n : Nat) : Bytes :=
  (List.range count).map fun i => UInt8.ofNat (n >>> (8 * i))

def bigEndian (count n : Nat) : Bytes := (littleEndian count n).reverse

def ofLittleEndian (b : Bytes) : Nat := b.foldr (fun d n => d.toNat + 256 * n) 0

def ofBigEndian (b : Bytes) : Nat := b.foldl (fun n d => 256 * n + d.toNat) 0

@[simp] theorem length_littleEndian (count n : Nat) : (littleEndian count n).length = count := by
  simp [littleEndian]

@[simp] theorem length_bigEndian (count n : Nat) : (bigEndian count n).length = count := by
  simp [bigEndian]

def chunksFrom (n : Nat) : Nat → Bytes → List Bytes
  | 0, _ => []
  | fuel + 1, b => if b = [] then [] else b.take n :: chunksFrom n fuel (b.drop n)

/-- Pieces of `n` bytes; the last may be shorter. -/
def chunks (n : Nat) (b : Bytes) : List Bytes := chunksFrom n b.length b

def hex (b : Bytes) : String :=
  String.ofList (b.flatMap fun d =>
    [Nat.digitChar (d.toNat / 16), Nat.digitChar (d.toNat % 16)])

end Bytes

end Turnstile

import Turnstile.Digest.Bytes

/-!
The 1024-byte blocks of Argon2's memory, as eight strips of sixteen words, and their compression.
A block is permuted strip by strip, once along its rows and once along its columns; a column is two
words wide.
-/

namespace Turnstile.Argon2

structure Strip where
  v0 : UInt64
  v1 : UInt64
  v2 : UInt64
  v3 : UInt64
  v4 : UInt64
  v5 : UInt64
  v6 : UInt64
  v7 : UInt64
  v8 : UInt64
  v9 : UInt64
  v10 : UInt64
  v11 : UInt64
  v12 : UInt64
  v13 : UInt64
  v14 : UInt64
  v15 : UInt64

namespace Strip

def zero : Strip := ⟨0, 0, 0, 0, 0, 0, 0, 0, 0, 0, 0, 0, 0, 0, 0, 0⟩

def ofFn (f : Nat → UInt64) : Strip :=
  ⟨f 0, f 1, f 2, f 3, f 4, f 5, f 6, f 7, f 8, f 9, f 10, f 11, f 12, f 13, f 14, f 15⟩

def words (s : Strip) : List UInt64 :=
  [s.v0, s.v1, s.v2, s.v3, s.v4, s.v5, s.v6, s.v7,
    s.v8, s.v9, s.v10, s.v11, s.v12, s.v13, s.v14, s.v15]

def xor (s t : Strip) : Strip :=
  ⟨s.v0 ^^^ t.v0, s.v1 ^^^ t.v1, s.v2 ^^^ t.v2, s.v3 ^^^ t.v3, s.v4 ^^^ t.v4,
    s.v5 ^^^ t.v5, s.v6 ^^^ t.v6, s.v7 ^^^ t.v7, s.v8 ^^^ t.v8, s.v9 ^^^ t.v9,
    s.v10 ^^^ t.v10, s.v11 ^^^ t.v11, s.v12 ^^^ t.v12, s.v13 ^^^ t.v13, s.v14 ^^^ t.v14,
    s.v15 ^^^ t.v15⟩

end Strip

@[inline] def rotr (x n : UInt64) : UInt64 := (x >>> n) ||| (x <<< (64 - n))

/-- Addition hardened by a multiplication of the low halves. -/
@[inline] def hardAdd (x y : UInt64) : UInt64 :=
  x + y + 2 * ((x &&& 0xFFFFFFFF) * (y &&& 0xFFFFFFFF))

structure Quad where
  a : UInt64
  b : UInt64
  c : UInt64
  d : UInt64

@[inline] def quarter (a b c d : UInt64) : Quad :=
  let a := hardAdd a b
  let d := rotr (d ^^^ a) 32
  let c := hardAdd c d
  let b := rotr (b ^^^ c) 24
  let a := hardAdd a b
  let d := rotr (d ^^^ a) 16
  let c := hardAdd c d
  let b := rotr (b ^^^ c) 63
  ⟨a, b, c, d⟩

def Strip.permute (s : Strip) : Strip :=
  let q0 := quarter s.v0 s.v4 s.v8 s.v12
  let q1 := quarter s.v1 s.v5 s.v9 s.v13
  let q2 := quarter s.v2 s.v6 s.v10 s.v14
  let q3 := quarter s.v3 s.v7 s.v11 s.v15
  let q4 := quarter q0.a q1.b q2.c q3.d
  let q5 := quarter q1.a q2.b q3.c q0.d
  let q6 := quarter q2.a q3.b q0.c q1.d
  let q7 := quarter q3.a q0.b q1.c q2.d
  ⟨q4.a, q5.a, q6.a, q7.a, q7.b, q4.b, q5.b, q6.b,
    q6.c, q7.c, q4.c, q5.c, q5.d, q6.d, q7.d, q4.d⟩

structure Block where
  r0 : Strip
  r1 : Strip
  r2 : Strip
  r3 : Strip
  r4 : Strip
  r5 : Strip
  r6 : Strip
  r7 : Strip

namespace Block

def zero : Block :=
  ⟨.zero, .zero, .zero, .zero, .zero, .zero, .zero, .zero⟩

instance : Inhabited Block := ⟨zero⟩

def ofFn (f : Nat → Strip) : Block := ⟨f 0, f 1, f 2, f 3, f 4, f 5, f 6, f 7⟩

def strips (b : Block) : List Strip := [b.r0, b.r1, b.r2, b.r3, b.r4, b.r5, b.r6, b.r7]

def xor (b c : Block) : Block :=
  ⟨b.r0.xor c.r0, b.r1.xor c.r1, b.r2.xor c.r2, b.r3.xor c.r3,
    b.r4.xor c.r4, b.r5.xor c.r5, b.r6.xor c.r6, b.r7.xor c.r7⟩

def permuteRows (b : Block) : Block :=
  ⟨b.r0.permute, b.r1.permute, b.r2.permute, b.r3.permute,
    b.r4.permute, b.r5.permute, b.r6.permute, b.r7.permute⟩

/-- Rows and columns exchanged, pairs of words staying together. -/
def transpose (b : Block) : Block :=
  ⟨
    ⟨b.r0.v0, b.r0.v1, b.r1.v0, b.r1.v1, b.r2.v0, b.r2.v1, b.r3.v0, b.r3.v1,
      b.r4.v0, b.r4.v1, b.r5.v0, b.r5.v1, b.r6.v0, b.r6.v1, b.r7.v0, b.r7.v1⟩,
    ⟨b.r0.v2, b.r0.v3, b.r1.v2, b.r1.v3, b.r2.v2, b.r2.v3, b.r3.v2, b.r3.v3,
      b.r4.v2, b.r4.v3, b.r5.v2, b.r5.v3, b.r6.v2, b.r6.v3, b.r7.v2, b.r7.v3⟩,
    ⟨b.r0.v4, b.r0.v5, b.r1.v4, b.r1.v5, b.r2.v4, b.r2.v5, b.r3.v4, b.r3.v5,
      b.r4.v4, b.r4.v5, b.r5.v4, b.r5.v5, b.r6.v4, b.r6.v5, b.r7.v4, b.r7.v5⟩,
    ⟨b.r0.v6, b.r0.v7, b.r1.v6, b.r1.v7, b.r2.v6, b.r2.v7, b.r3.v6, b.r3.v7,
      b.r4.v6, b.r4.v7, b.r5.v6, b.r5.v7, b.r6.v6, b.r6.v7, b.r7.v6, b.r7.v7⟩,
    ⟨b.r0.v8, b.r0.v9, b.r1.v8, b.r1.v9, b.r2.v8, b.r2.v9, b.r3.v8, b.r3.v9,
      b.r4.v8, b.r4.v9, b.r5.v8, b.r5.v9, b.r6.v8, b.r6.v9, b.r7.v8, b.r7.v9⟩,
    ⟨b.r0.v10, b.r0.v11, b.r1.v10, b.r1.v11, b.r2.v10, b.r2.v11, b.r3.v10, b.r3.v11,
      b.r4.v10, b.r4.v11, b.r5.v10, b.r5.v11, b.r6.v10, b.r6.v11, b.r7.v10, b.r7.v11⟩,
    ⟨b.r0.v12, b.r0.v13, b.r1.v12, b.r1.v13, b.r2.v12, b.r2.v13, b.r3.v12, b.r3.v13,
      b.r4.v12, b.r4.v13, b.r5.v12, b.r5.v13, b.r6.v12, b.r6.v13, b.r7.v12, b.r7.v13⟩,
    ⟨b.r0.v14, b.r0.v15, b.r1.v14, b.r1.v15, b.r2.v14, b.r2.v15, b.r3.v14, b.r3.v15,
      b.r4.v14, b.r4.v15, b.r5.v14, b.r5.v15, b.r6.v14, b.r6.v15, b.r7.v14, b.r7.v15⟩⟩

def permute (b : Block) : Block := b.permuteRows.transpose.permuteRows.transpose

/-- The compression function on two blocks. -/
def compress (b c : Block) : Block :=
  let r := b.xor c
  r.permute.xor r

def words (b : Block) : List UInt64 := b.strips.flatMap Strip.words

def bytes (b : Block) : Bytes := b.words.flatMap fun w => Bytes.littleEndian 8 w.toNat

def ofWords (w : Array UInt64) : Block :=
  ofFn fun i => Strip.ofFn fun j => w.getD (16 * i + j) 0

def ofBytes (b : Bytes) : Block :=
  ofWords ((b.chunks 8).map fun w => UInt64.ofNat w.ofLittleEndian).toArray

/-- The word that selects the next reference block. -/
def firstWord (b : Block) : UInt64 := b.r0.v0

end Block

end Turnstile.Argon2

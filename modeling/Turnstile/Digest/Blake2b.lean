import Turnstile.Digest.Bytes

/-!
Unkeyed BLAKE2b with a chosen digest length of at most 64 bytes.
-/

namespace Turnstile.Blake2b

def initial : Array UInt64 := #[
  0x6a09e667f3bcc908, 0xbb67ae8584caa73b, 0x3c6ef372fe94f82b, 0xa54ff53a5f1d36f1,
  0x510e527fade682d1, 0x9b05688c2b3e6c1f, 0x1f83d9abfb41bd6b, 0x5be0cd19137e2179]

/-- The order in which the message words enter each round; rounds eleven and twelve start over. -/
def schedule : List (List Nat) := [
  [0, 1, 2, 3, 4, 5, 6, 7, 8, 9, 10, 11, 12, 13, 14, 15],
  [14, 10, 4, 8, 9, 15, 13, 6, 1, 12, 0, 2, 11, 7, 5, 3],
  [11, 8, 12, 0, 5, 2, 15, 13, 10, 14, 3, 6, 7, 1, 9, 4],
  [7, 9, 3, 1, 13, 12, 11, 14, 2, 6, 5, 10, 4, 0, 15, 8],
  [9, 0, 5, 7, 2, 4, 10, 15, 14, 1, 11, 12, 6, 8, 3, 13],
  [2, 12, 6, 10, 0, 11, 8, 3, 4, 13, 7, 5, 15, 14, 1, 9],
  [12, 5, 1, 15, 14, 13, 4, 10, 0, 7, 6, 3, 9, 2, 8, 11],
  [13, 11, 7, 14, 12, 1, 3, 9, 5, 0, 15, 4, 8, 6, 2, 10],
  [6, 15, 14, 9, 11, 3, 0, 8, 12, 2, 13, 7, 1, 4, 10, 5],
  [10, 2, 8, 4, 7, 6, 1, 5, 15, 11, 9, 14, 3, 12, 13, 0]]

def rotr (x n : UInt64) : UInt64 := (x >>> n) ||| (x <<< (64 - n))

def mix (v : Array UInt64) (a b c d : Nat) (x y : UInt64) : Array UInt64 :=
  let va := v.getD a 0 + v.getD b 0 + x
  let vd := rotr (v.getD d 0 ^^^ va) 32
  let vc := v.getD c 0 + vd
  let vb := rotr (v.getD b 0 ^^^ vc) 24
  let va := va + vb + y
  let vd := rotr (vd ^^^ va) 16
  let vc := vc + vd
  let vb := rotr (vb ^^^ vc) 63
  (((v.setIfInBounds a va).setIfInBounds b vb).setIfInBounds c vc).setIfInBounds d vd

/-- The four columns of the state, then its four diagonals. -/
def mixed : List (Nat × Nat × Nat × Nat) :=
  [(0, 4, 8, 12), (1, 5, 9, 13), (2, 6, 10, 14), (3, 7, 11, 15),
    (0, 5, 10, 15), (1, 6, 11, 12), (2, 7, 8, 13), (3, 4, 9, 14)]

def round (m : Array UInt64) (v : Array UInt64) (order : List Nat) : Array UInt64 :=
  let order := order.toArray
  mixed.zipIdx.foldl (fun v p =>
    mix v p.1.1 p.1.2.1 p.1.2.2.1 p.1.2.2.2
      (m.getD (order.getD (2 * p.2) 0) 0) (m.getD (order.getD (2 * p.2 + 1) 0) 0)) v

/-- `count` is the number of message bytes up to the end of the block. -/
def compress (h : Array UInt64) (block : Bytes) (count : Nat) (last : Bool) : Array UInt64 :=
  let m := ((block.chunks 8).map fun w => UInt64.ofNat w.ofLittleEndian).toArray
  let v := h ++ initial
  let v := v.modify 12 (· ^^^ UInt64.ofNat count)
  let v := v.modify 13 (· ^^^ UInt64.ofNat (count >>> 64))
  let v := if last then v.modify 14 (· ^^^ 0xFFFFFFFFFFFFFFFF) else v
  let v := (schedule ++ schedule.take 2).foldl (round m) v
  Array.ofFn fun i : Fin 8 => h.getD i 0 ^^^ v.getD i 0 ^^^ v.getD (i + 8) 0

/-- The empty message still has one block. -/
def blocks (message : Bytes) : List Bytes :=
  if message = [] then [[]] else message.chunks 128

def absorb (total : Nat) (h : Array UInt64) (count : Nat) : List Bytes → Array UInt64
  | [] => h
  | [block] => compress h block total true
  | block :: rest => absorb total (compress h block (count + 128) false) (count + 128) rest

def digest (length : Nat) (message : Bytes) : Bytes :=
  let h := initial.modify 0 (· ^^^ UInt64.ofNat (0x01010000 + length))
  let h := absorb message.length h 0 (blocks message)
  (h.toList.flatMap fun w => Bytes.littleEndian 8 w.toNat).take length

end Turnstile.Blake2b

import Turnstile.Digest.Argon2Block
import Turnstile.Digest.Blake2b

/-!
Argon2: a memory of blocks is filled lane by lane, each block from its predecessor and one reference
block, and the last blocks of the lanes are folded into the tag. The three variants differ only in
how a reference is chosen, the two versions in whether a later pass overwrites a block or adds to it.
-/

namespace Turnstile.Argon2

inductive Variant where
  | d | i | id
  deriving DecidableEq, Repr

namespace Variant

def code : Variant → Nat
  | .d => 0
  | .i => 1
  | .id => 2

end Variant

inductive Version where
  | v16 | v19
  deriving DecidableEq, Repr

namespace Version

def code : Version → Nat
  | .v16 => 16
  | .v19 => 19

end Version

structure Params where
  variant : Variant
  version : Version
  memory : Nat
  passes : Nat
  lanes : Nat
  tagLength : Nat
  associated : Bytes
  deriving DecidableEq, Repr

namespace Params

/-- A quarter of a lane, in blocks. -/
def segmentLength (p : Params) : Nat := p.memory / (4 * p.lanes)

def laneLength (p : Params) : Nat := 4 * p.segmentLength

def blockCount (p : Params) : Nat := p.lanes * p.laneLength

end Params

/-- A digest of any length, in overlapping pieces when it is longer than 64 bytes. -/
def longDigest (length : Nat) (message : Bytes) : Bytes :=
  let message := Bytes.littleEndian 4 length ++ message
  if length ≤ 64 then Blake2b.digest length message
  else
    let pieces := (length + 31) / 32 - 2
    let first := Blake2b.digest 64 message
    let (out, last) := (List.range (pieces - 1)).foldl
      (fun (out, last) _ => (last.take 32 :: out, Blake2b.digest 64 last)) ([], first)
    (last.take 32 :: out).reverse.flatten ++ Blake2b.digest (length - 32 * pieces) last

def sized (b : Bytes) : Bytes := Bytes.littleEndian 4 b.length ++ b

def seed (p : Params) (password salt : Bytes) : Bytes :=
  Blake2b.digest 64 <|
    ([p.lanes, p.tagLength, p.memory, p.passes, p.version.code, p.variant.code].flatMap
      (Bytes.littleEndian 4)) ++
    sized password ++ sized salt ++ sized [] ++ sized p.associated

/-- Where a segment stands: the pass, the quarter and the lane. -/
structure Segment where
  pass : Nat
  slice : Nat
  lane : Nat

/-- Whether references in the segment are chosen without looking at the memory. -/
def Params.independent (p : Params) (s : Segment) : Bool :=
  match p.variant with
  | .d => false
  | .i => true
  | .id => s.pass == 0 && s.slice < 2

/-- The pseudo-random words for the references of one segment, 128 from each counter value. -/
def Params.addresses (p : Params) (s : Segment) : Array UInt64 :=
  ((List.range ((p.segmentLength + 127) / 128)).flatMap fun i =>
    let input := Block.ofWords (#[s.pass, s.lane, s.slice, p.blockCount, p.passes, p.variant.code,
      i + 1].map UInt64.ofNat)
    (Block.zero.compress (Block.zero.compress input)).words).toArray

/-- The block that position `index` of a segment refers to, as an index into the whole memory. -/
def Params.reference (p : Params) (s : Segment) (index : Nat) (word : UInt64) : Nat :=
  let low := word.toNat % (1 <<< 32)
  let high := word.toNat >>> 32
  let lane := if s.pass = 0 ∧ s.slice = 0 then s.lane else high % p.lanes
  let finished := if s.pass = 0 then s.slice * p.segmentLength else p.laneLength - p.segmentLength
  let area :=
    if lane = s.lane then finished + index - 1
    else if index = 0 then finished - 1
    else finished
  let skew := (area * ((low * low) >>> 32)) >>> 32
  let offset := area - 1 - skew
  let start := if s.pass = 0 ∨ s.slice = 3 then 0 else (s.slice + 1) * p.segmentLength
  lane * p.laneLength + (start + offset) % p.laneLength

def Params.fillBlock (p : Params) (s : Segment) (addresses : Array UInt64)
    (memory : Array Block) (index : Nat) : Array Block :=
  let column := s.slice * p.segmentLength + index
  let current := s.lane * p.laneLength + column
  let previous :=
    memory.getD (s.lane * p.laneLength + (column + p.laneLength - 1) % p.laneLength) .zero
  let word := if p.independent s then addresses.getD index 0 else previous.firstWord
  let fresh := previous.compress (memory.getD (p.reference s index word) .zero)
  let block :=
    match p.version with
    | .v16 => fresh
    | .v19 => if s.pass = 0 then fresh else (memory.getD current .zero).xor fresh
  memory.setIfInBounds current block

def Params.fillSegment (p : Params) (memory : Array Block) (s : Segment) : Array Block :=
  let addresses := if p.independent s then p.addresses s else #[]
  let first := if s.pass = 0 ∧ s.slice = 0 then 2 else 0
  p.segmentLength.fold (fun index _ memory =>
    if index < first then memory else p.fillBlock s addresses memory index) memory

def Params.segments (p : Params) : List Segment :=
  (List.range p.passes).flatMap fun pass =>
    (List.range 4).flatMap fun slice =>
      (List.range p.lanes).map fun lane => ⟨pass, slice, lane⟩

/-- Each lane begins with two blocks drawn from the seed. -/
def Params.firstBlocks (p : Params) (seed : Bytes) : Array Block :=
  (List.range p.lanes).foldl (fun memory lane =>
    (List.range 2).foldl (fun memory column =>
      memory.setIfInBounds (lane * p.laneLength + column) <|
        .ofBytes (longDigest 1024
          (seed ++ Bytes.littleEndian 4 column ++ Bytes.littleEndian 4 lane))) memory)
    (Array.replicate p.blockCount .zero)

def Params.fold (p : Params) (memory : Array Block) : Block :=
  (List.range p.lanes).foldl (fun b lane =>
    b.xor (memory.getD ((lane + 1) * p.laneLength - 1) .zero)) .zero

/-- The tag of a password under a salt. -/
def tag (p : Params) (password salt : Bytes) : Bytes :=
  longDigest p.tagLength
    (p.fold (p.segments.foldl p.fillSegment (p.firstBlocks (seed p password salt)))).bytes

end Turnstile.Argon2

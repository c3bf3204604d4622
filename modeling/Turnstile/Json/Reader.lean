import Turnstile.Digest.Bytes
import Turnstile.Json.Value

/-!
Reading JSON for a purpose: a reader says what shape it wants, and the bytes are read once from left
to right. The first problem met decides the verdict, malformed text or a well-formed text of the wrong
shape, so a wrong shape early on hides bad text after it. Only a text that is looked at has to be
UTF-8.
-/

namespace Turnstile.Json

inductive Fault where
  | malformed | mismatch
  deriving DecidableEq, Repr

/-- Bytes as they are read, each one a character below 256. -/
def wire (b : Bytes) : List Char := b.map Char.ofUInt8

abbrev ReaderOf (α : Type) := List Char → Except Fault (α × List Char)

abbrev Reader := ReaderOf Value

def isSpace (c : Char) : Bool := c = ' ' || c = '\n' || c = '\t' || c = '\r'

def skipSpace (s : List Char) : List Char := s.dropWhile isSpace

/-! Texts. -/

/-- What a text is made of between its quotes: bytes, and units of UTF-16 given by their numbers. -/
inductive Piece where
  | byte (c : Char)
  | unit (n : Nat)

namespace Piece

/-- The first half of a character beyond 16 bits. -/
def isLead : Piece → Bool
  | unit n => 0xD800 ≤ n && n ≤ 0xDBFF
  | byte _ => false

def isTrail (n : Nat) : Bool := 0xDC00 ≤ n && n ≤ 0xDFFF

/-- The bytes that pieces stand for. The halves of a character have to come together. -/
def bytes? : List Piece → Option Bytes
  | [] => some []
  | byte c :: ps => (bytes? ps).map (UInt8.ofNat c.toNat :: ·)
  | unit n :: ps =>
    if isTrail n then none
    else if isLead (unit n) then
      match ps with
      | unit m :: ps =>
        let c := Char.ofNat (0x10000 + (n - 0xD800) * 1024 + (m - 0xDC00))
        if isTrail m then (bytes? ps).map (String.utf8EncodeChar c ++ ·) else none
      | _ => none
    else (bytes? ps).map (String.utf8EncodeChar (Char.ofNat n) ++ ·)

def text? (ps : List Piece) : Option String := (bytes? ps).bind Bytes.toText?

/-- Pieces that are no text can be told so at their end only: because the bytes are no UTF-8, or the
last half of a character is missing. -/
def failLate (ps : List Piece) : Bool :=
  (bytes? ps).isSome || (ps.getLast?.any isLead && (bytes? ps.dropLast).isSome)

end Piece

def hexUnit? : List Char → Option (Nat × List Char)
  | a :: b :: c :: d :: rest => do
    let a ← Hex.value? a
    let b ← Hex.value? b
    let c ← Hex.value? c
    let d ← Hex.value? d
    return (a * 4096 + b * 256 + c * 16 + d, rest)
  | _ => none

/-- What an escape stands for, after its backslash. -/
def escape? : List Char → Option (Piece × List Char)
  | '"' :: rest => some (.byte '"', rest)
  | '\\' :: rest => some (.byte '\\', rest)
  | '/' :: rest => some (.byte '/', rest)
  | 'b' :: rest => some (.byte '\x08', rest)
  | 'f' :: rest => some (.byte '\x0c', rest)
  | 'n' :: rest => some (.byte '\n', rest)
  | 'r' :: rest => some (.byte '\r', rest)
  | 't' :: rest => some (.byte '\t', rest)
  | 'u' :: rest => (hexUnit? rest).map fun p => (.unit p.1, p.2)
  | _ => none

/-- The rest of a text after its opening quote, piece by piece. -/
def piecesFrom : Nat → List Piece → List Char → Except Fault (List Piece × List Char)
  | 0, _, _ => .error .malformed
  | _ + 1, _, [] => .error .malformed
  | fuel + 1, acc, c :: rest =>
    if c = '"' then .ok (acc.reverse, rest)
    else if c = '\\' then
      match escape? rest with
      | some (p, rest) => piecesFrom fuel (p :: acc) rest
      | none => .error .malformed
    else if c.toNat < 32 then .error .malformed
    else piecesFrom fuel (.byte c :: acc) rest

def pieces : ReaderOf (List Piece) := fun s => piecesFrom s.length [] s

def string : ReaderOf String := fun s => do
  let (ps, rest) ← pieces s
  match Piece.text? ps with
  | some t => return (t, rest)
  | none => throw .malformed

/-- A text that nobody looks at. -/
def skipString : ReaderOf String := fun s => (pieces s).map fun p => ("", p.2)

/-! Numbers. -/

def literal (word : List Char) (v : Value) : Reader := fun s =>
  if s.take word.length = word then .ok (v, s.drop word.length) else .error .malformed

def natural (s : List Char) : Nat := s.foldl (fun n c => 10 * n + (c.toNat - 48)) 0

/-- A number with digits put after it, as many as 64 bits hold, and how many are left over. -/
def absorb : Nat → List Char → Nat × Nat
  | n, [] => (n, 0)
  | n, c :: ds =>
    let next := 10 * n + (c.toNat - 48)
    if next < 18446744073709551616 then absorb next ds else (n, ds.length + 1)

/-- The number of 53 significant binary digits next to a number, the even one of two. -/
def nearest (n : Nat) : Nat :=
  let place := Nat.pow 2 (Nat.log2 n - 52)
  let kept := n / place
  let rest := n % place
  if place < 2 * rest ∨ place = 2 * rest ∧ kept % 2 = 1 then (kept + 1) * place else kept * place

/-- The least magnitude that rounds to no finite binary number of 64 bits. -/
def overflow : Nat := (1 <<< 1024) - (1 <<< 970)

/-- Whether `digits · 10 ^ exponent`, taken as a product of two binary numbers of 64 bits, lies beyond
all of these. -/
def tooLarge (digits : Nat) (exponent : Int) : Bool :=
  if digits = 0 ∨ exponent < 0 then false
  else if 308 < exponent then true
  else decide (overflow ≤ nearest digits * nearest (Nat.pow 10 exponent.toNat))

/-- The parts of a numeral after its sign: whole digits, fraction digits, exponent if written. -/
structure Numeral where
  whole : List Char
  fraction : Option (List Char)
  exponent : Option (Bool × List Char)

def wholePart? (s : List Char) : Option (List Char × List Char) :=
  match s with
  | '0' :: rest => if (rest.headD ' ').isDigit then none else some (['0'], rest)
  | _ =>
    let ds := s.takeWhile Char.isDigit
    if ds = [] then none else some (ds, s.drop ds.length)

def fractionPart? (s : List Char) : Option (Option (List Char) × List Char) :=
  match s with
  | '.' :: rest =>
    let ds := rest.takeWhile Char.isDigit
    if ds = [] then none else some (some ds, rest.drop ds.length)
  | _ => some (none, s)

def exponentDigits? (negative : Bool) (s : List Char) :
    Option (Option (Bool × List Char) × List Char) :=
  let ds := s.takeWhile Char.isDigit
  if ds = [] then none else some (some (negative, ds), s.drop ds.length)

def exponentPart? (s : List Char) : Option (Option (Bool × List Char) × List Char) :=
  match s with
  | c :: rest =>
    if c = 'e' ∨ c = 'E' then
      match rest with
      | '+' :: rest => exponentDigits? false rest
      | '-' :: rest => exponentDigits? true rest
      | _ => exponentDigits? false rest
    else some (none, s)
  | [] => some (none, s)

def numeral? (s : List Char) : Option (Numeral × List Char) := do
  let (whole, rest) ← wholePart? s
  let (fraction, rest) ← fractionPart? rest
  let (exponent, rest) ← exponentPart? rest
  return (⟨whole, fraction, exponent⟩, rest)

namespace Numeral

def power (m : Numeral) : Int :=
  match m.exponent with
  | some (true, ds) => -(natural ds : Int)
  | some (false, ds) => natural ds
  | none => 0

/-- Whole digits that are left over count as zeros, digits of the fraction not at all. -/
def outOfRange (m : Numeral) : Bool :=
  let fraction := m.fraction.getD []
  let (n, zeros) := absorb 0 m.whole
  let (n, dropped) := absorb n fraction
  tooLarge n (m.power + zeros + dropped - fraction.length)

/-- The exponent of a number out of range may be too large in itself, and is not read to its end. -/
def cutShort (m : Numeral) : Bool :=
  match m.exponent with
  | some (false, ds) => decide (2147483647 < natural ds.dropLast)
  | _ => false

/-- Minus zero counts as a decimal, as does whatever has a fraction or an exponent. -/
def value (m : Numeral) (negative : Bool) : Value :=
  let fraction := m.fraction.getD []
  let digits := natural (m.whole ++ fraction)
  let signed : Int := if negative then -(digits : Int) else digits
  if m.fraction.isNone ∧ m.exponent.isNone ∧ ¬(negative ∧ digits = 0) then .integer signed
  else .decimal signed (m.power - fraction.length)

end Numeral

/-- A number without its sign. -/
def unsigned (s : List Char) : List Char :=
  match s with
  | '-' :: rest => rest
  | _ => s

def number : Reader := fun s =>
  match numeral? (unsigned s) with
  | some (m, rest) =>
    if m.outOfRange then .error .malformed else .ok (m.value (s.head? = some '-'), rest)
  | none => .error .malformed

/-- A number that nobody looks at. -/
def skipNumber : Reader := fun s =>
  match numeral? (unsigned s) with
  | some (_, rest) => .ok (.null, rest)
  | none => .error .malformed

/-! Readers. -/

/-- The verdict on a value that cannot have the wanted shape. A scalar is read first and may turn out
malformed; of a list or a record only the bracket is looked at. -/
def unwanted (s : List Char) : Fault :=
  let scalar (r : Except Fault (Value × List Char)) : Fault :=
    match r with
    | .ok _ => .mismatch
    | .error _ => .malformed
  match s with
  | [] => .malformed
  | 'n' :: _ => scalar (literal ['n', 'u', 'l', 'l'] .null s)
  | 't' :: _ => scalar (literal ['t', 'r', 'u', 'e'] (.flag true) s)
  | 'f' :: _ => scalar (literal ['f', 'a', 'l', 's', 'e'] (.flag false) s)
  | '"' :: rest => scalar ((string rest).map fun p => (.text p.1, p.2))
  | '[' :: _ | '{' :: _ => .mismatch
  | c :: _ => if c = '-' ∨ c.isDigit then scalar (number s) else .malformed

def text : Reader := fun s =>
  match skipSpace s with
  | '"' :: rest => do
    let (t, rest) ← string rest
    return (.text t, rest)
  | s => .error (unwanted s)

def flag : Reader := fun s =>
  match skipSpace s with
  | 't' :: rest => literal ['r', 'u', 'e'] (.flag true) rest
  | 'f' :: rest => literal ['a', 'l', 's', 'e'] (.flag false) rest
  | s => .error (unwanted s)

/-- An integer of 64 bits with sign, written without fraction or exponent. -/
def integer : Reader := fun s =>
  match skipSpace s with
  | [] => .error .malformed
  | c :: rest =>
    if c = '-' ∨ c.isDigit then do
      match ← number (c :: rest) with
      | (.integer n, rest) =>
        if -9223372036854775808 ≤ n ∧ n ≤ 9223372036854775807 then return (.integer n, rest) else throw .mismatch
      | _ => throw .mismatch
    else .error (unwanted (c :: rest))

def nullable (read : Reader) : Reader := fun s =>
  match skipSpace s with
  | 'n' :: rest => literal ['u', 'l', 'l'] .null rest
  | s => read s

/-- The items of a list after its bracket. -/
def items (read : ReaderOf α) : Nat → (first : Bool) → List α → ReaderOf (List α)
  | 0, _, _, _ => .error .malformed
  | fuel + 1, first, acc, s =>
    match skipSpace s with
    | ']' :: rest => .ok (acc.reverse, rest)
    | s =>
      if first then
        match read s with
        | .ok (v, rest) => items read fuel false (v :: acc) rest
        | .error e => .error e
      else
        match s with
        | ',' :: rest =>
          match skipSpace rest with
          | ']' :: _ => .error .malformed
          | rest =>
            match read rest with
            | .ok (v, rest) => items read fuel false (v :: acc) rest
            | .error e => .error e
        | _ => .error .malformed

def list (read : Reader) : Reader := fun s =>
  match skipSpace s with
  | '[' :: rest => do
    let (xs, rest) ← items read (rest.length + 1) true [] rest
    return (.list xs, rest)
  | s => .error (unwanted s)

def colon (s : List Char) : Except Fault (List Char) :=
  match skipSpace s with
  | ':' :: rest => .ok rest
  | _ => .error .malformed

/-- How the value of each name is read, given the members so far. -/
abbrev Members (α : Type) := List (String × α) → String → Except Fault (ReaderOf α)

/-- The members of a record after its brace. -/
def members (key : ReaderOf String) (choose : Members α) :
    Nat → (first : Bool) → List (String × α) → ReaderOf (List (String × α))
  | 0, _, _, _ => .error .malformed
  | fuel + 1, first, acc, s =>
    match skipSpace s with
    | '}' :: rest => .ok (acc.reverse, rest)
    | s =>
      let start : Option (List Char) :=
        if first then some s
        else match s with
          | ',' :: rest => some (skipSpace rest)
          | _ => none
      match start with
      | some ('"' :: rest) =>
        let one : Except Fault ((String × α) × List Char) := do
          let (k, rest) ← key rest
          let read ← choose acc k
          let rest ← colon rest
          let (v, rest) ← read rest
          return ((k, v), rest)
        match one with
        | .ok (m, rest) => members key choose fuel false (m :: acc) rest
        | .error e => .error e
      | _ => .error .malformed

def table (read : Reader) : Reader := fun s =>
  match skipSpace s with
  | '{' :: rest => do
    let (ms, rest) ← members string (fun _ _ => .ok read) (rest.length + 1) true [] rest
    return (.record ms, rest)
  | s => .error (unwanted s)

/-- A value nobody looks at: it has to be well-formed, and that is all. -/
def ignored : Nat → Reader
  | 0, _ => .error .malformed
  | depth + 1, s =>
    match skipSpace s with
    | [] => .error .malformed
    | 'n' :: rest => literal ['u', 'l', 'l'] .null rest
    | 't' :: rest => literal ['r', 'u', 'e'] .null rest
    | 'f' :: rest => literal ['a', 'l', 's', 'e'] .null rest
    | '"' :: rest => (skipString rest).map fun p => (.null, p.2)
    | '[' :: rest =>
      (items (ignored depth) (rest.length + 1) true [] rest).map fun p => (.null, p.2)
    | '{' :: rest =>
      (members skipString (fun _ _ => .ok (ignored depth)) (rest.length + 1) true [] rest).map
        fun p => (.null, p.2)
    | s => skipNumber s

/-- Any value, nested less deeply than `depth`. -/
def any : Nat → Reader
  | 0, _ => .error .malformed
  | depth + 1, s =>
    match skipSpace s with
    | [] => .error .malformed
    | 'n' :: rest => literal ['u', 'l', 'l'] .null rest
    | 't' :: rest => literal ['r', 'u', 'e'] (.flag true) rest
    | 'f' :: rest => literal ['a', 'l', 's', 'e'] (.flag false) rest
    | '"' :: rest => (string rest).map fun p => (.text p.1, p.2)
    | '[' :: rest => (items (any depth) (rest.length + 1) true [] rest).map fun p => (.list p.1, p.2)
    | '{' :: rest =>
      (members string (fun _ _ => .ok (any depth)) (rest.length + 1) true [] rest).map fun p =>
        (.record p.1, p.2)
    | s => number s

/-- Values of which some may have been given up. What comes after such a one could no longer be read,
so it has to be the last. -/
def gathered (vs : List (Option α)) : Except Fault (Option (List α)) :=
  if vs.dropLast.all Option.isSome then .ok (vs.mapM id) else .error .malformed

/-- Any value, nested less deeply than `depth`, for a caller who can do without. It is given up when
it turns out to be none only where it ends, and what follows it is read as if nothing had been. -/
def attempt : Nat → ReaderOf (Option Value)
  | 0, _ => .error .malformed
  | depth + 1, s =>
    match skipSpace s with
    | '"' :: rest => do
      let (ps, rest) ← pieces rest
      if (Piece.text? ps).isSome || Piece.failLate ps then
        return ((Piece.text? ps).map .text, rest)
      else throw .malformed
    | '[' :: rest => do
      let (vs, rest) ← items (attempt depth) (rest.length + 1) true [] rest
      return ((← gathered vs).map .list, rest)
    | '{' :: rest => do
      let (ms, rest) ← members string (fun _ _ => .ok (attempt depth)) (rest.length + 1) true [] rest
      return ((← gathered (ms.map Prod.snd)).map fun vs => .record ((ms.map Prod.fst).zip vs), rest)
    | s =>
      match numeral? (unsigned s) with
      | some (m, rest) =>
        if ¬ m.outOfRange then .ok (some (m.value (s.head? = some '-')), rest)
        else if m.cutShort then .error .malformed
        else .ok (none, rest)
      | none => (any 1 s).map fun p => (some p.1, p.2)

inductive Presence where
  | required
  /-- May be left out of a record, but not of its list form. -/
  | nullable
  /-- May be left out of both. -/
  | defaulted
  deriving DecidableEq, Repr

structure Field where
  name : String
  presence : Presence
  read : Reader

/-- A name may come once; one that is not a field is refused or ignored. -/
def fieldReader (strict : Bool) (fields : List Field) : Members Value := fun seen name =>
  match fields.find? (·.name = name) with
  | some f => if seen.any (·.1 = name) then .error .mismatch else .ok f.read
  | none => if strict then .error .mismatch else .ok fun s => ignored (s.length + 1) s

/-- The fields in order, as items of a list after its bracket. -/
def fieldItems : List Field → (first : Bool) → List (String × Value) →
    ReaderOf (List (String × Value))
  | [], _, acc, s =>
    match skipSpace s with
    | ']' :: rest => .ok (acc.reverse, rest)
    | _ => .error .malformed
  | f :: fs, first, acc, s =>
    match skipSpace s with
    | ']' :: rest =>
      if f.presence = .defaulted then fieldItems fs first acc (']' :: rest) else .error .mismatch
    | s =>
      let start : Option (List Char) :=
        if first then some s
        else match s with
          | ',' :: rest =>
            match skipSpace rest with
            | ']' :: _ => none
            | rest => some rest
          | _ => none
      match start with
      | some rest => do
        let (v, rest) ← f.read rest
        fieldItems fs false ((f.name, v) :: acc) rest
      | none => .error .malformed

/-- A record with the given fields, or the list of their values in order. -/
def record (strict : Bool) (fields : List Field) : Reader := fun s =>
  match skipSpace s with
  | '{' :: rest => do
    let (ms, rest) ← members string (fieldReader strict fields) (rest.length + 1) true [] rest
    if fields.all fun f => f.presence ≠ .required || ms.any (·.1 = f.name) then
      return (.record ms, rest)
    else throw .mismatch
  | '[' :: rest => do
    let (ms, rest) ← fieldItems fields true [] rest
    return (.record ms, rest)
  | s => .error (unwanted s)

/-- The value that a text begins with. What follows it is not looked at. -/
def readFront (r : Reader) (s : List Char) : Except Fault Value := (r s).map Prod.fst

/-- A whole text: one value and nothing but space around it. -/
def read (r : Reader) (s : List Char) : Except Fault Value := do
  let (v, rest) ← r s
  if skipSpace rest = [] then return v else throw .malformed

end Turnstile.Json

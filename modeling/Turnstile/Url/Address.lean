import Turnstile.Text.Hex

/-!
Numeric hosts. An IPv4 address may be written in fewer than four parts and in three bases; an IPv6
address may leave out one run of zeros and end in an IPv4 address. Both are written back in one way.
-/

namespace Turnstile.Url

def ofDigits (base : Nat) (ds : List Nat) : Nat := ds.foldl (fun n d => base * n + d) 0

def number? (base : Nat) (s : List Char) : Option Nat := do
  let ds ← s.mapM Hex.value?
  if ds.all (· < base) then some (ofDigits base ds) else none

namespace Ipv4

/-- Hexadecimal after `0x`, octal after a zero, and decimal otherwise. -/
def part? : List Char → Option Nat
  | [] => none
  | ['0'] => some 0
  | '0' :: c :: rest => if c = 'x' ∨ c = 'X' then number? 16 rest else number? 8 (c :: rest)
  | s => number? 10 s

def parts (s : List Char) : List (List Char) :=
  let ps := s.splitOn '.'
  if ps.getLast? = some [] ∧ 1 < ps.length then ps.dropLast else ps

/-- Whether a domain claims to be an address: its last part is a number. -/
def claimed (s : List Char) : Bool :=
  match (parts s).getLast? with
  | some last => (last ≠ [] && last.all Char.isDigit) || (part? last).isSome
  | none => false

/-- All parts but the last count bytes from the left; the last fills what is left over. -/
def address? (s : List Char) : Option Nat := do
  let numbers ← (parts s).mapM part?
  let last ← numbers.getLast?
  let bytes := numbers.dropLast
  let room := Nat.pow 256 (4 - bytes.length)
  if 3 < bytes.length ∨ bytes.any (255 < ·) ∨ room ≤ last then none
  else some (ofDigits 256 bytes * room + last)

def text (n : Nat) : List Char :=
  ['.'].intercalate ([n / 16777216, n / 65536 % 256, n / 256 % 256, n % 256].map fun d =>
    (toString d).toList)

end Ipv4

namespace Ipv6

def group? (s : List Char) : Option Nat :=
  if s = [] ∨ 4 < s.length then none else number? 16 s

def byte? (s : List Char) : Option Nat :=
  if s = [] ∨ (1 < s.length ∧ s.head? = some '0') then none
  else if s.all Char.isDigit then (number? 10 s).filter (· < 256)
  else none

/-- The two groups of an address in dotted form. -/
def dotted? (s : List Char) : Option (List Nat) := do
  match ← (s.splitOn '.').mapM byte? with
  | [a, b, c, d] => some [a * 256 + b, c * 256 + d]
  | _ => none

/-- The groups of a side of the gap; a dotted form may only come last of all. -/
def groups? (last : Bool) (s : List Char) : Option (List Nat) :=
  if s = [] then some []
  else
    let pieces := s.splitOn ':'
    let final := pieces.getLastD []
    if last ∧ final.contains '.' then do
      return (← pieces.dropLast.mapM group?) ++ (← dotted? final)
    else pieces.mapM group?

/-- The sides of the first double colon. -/
def splitGap? : List Char → Option (List Char × List Char)
  | ':' :: ':' :: rest => some ([], rest)
  | c :: rest => (splitGap? rest).map fun p => (c :: p.1, p.2)
  | [] => none

def address? (s : List Char) : Option (List Nat) :=
  match splitGap? s with
  | none => (groups? true s).filter (·.length = 8)
  | some (left, right) => do
    let l ← groups? false left
    let r ← groups? true right
    if l.length + r.length < 8 then
      some (l ++ List.replicate (8 - l.length - r.length) 0 ++ r)
    else none

def hexText (n : Nat) : List Char := Nat.toDigits 16 n

def runAt (groups : List Nat) (i : Nat) : Nat := ((groups.drop i).takeWhile (· = 0)).length

/-- Where the first longest run of zeros starts, and its length, if it is worth leaving out. -/
def gap? (groups : List Nat) : Option (Nat × Nat) :=
  let longest := ((List.range groups.length).map (runAt groups)).foldl max 0
  if longest < 2 then none
  else ((List.range groups.length).find? fun i => runAt groups i = longest).map (·, longest)

def join (groups : List Nat) : List Char := [':'].intercalate (groups.map hexText)

def text (groups : List Nat) : List Char :=
  match gap? groups with
  | none => join groups
  | some (i, n) => join (groups.take i) ++ [':', ':'] ++ join (groups.drop (i + n))

end Ipv6

end Turnstile.Url

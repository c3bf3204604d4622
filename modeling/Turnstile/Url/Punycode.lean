/-!
Punycode: text outside ASCII written with letters and digits. The ASCII characters come first; the
others follow in ascending order, each as the distance from the one before in digits of base 36.
-/

namespace Turnstile.Url.Punycode

def digit (d : Nat) : Char := if d < 26 then Char.ofNat (97 + d) else Char.ofNat (22 + d)

def threshold (k bias : Nat) : Nat := min 26 (max 1 (k - bias))

def settle (delta k : Nat) : Nat :=
  if h : 455 < delta then settle (delta / 35) (k + 36)
  else k + 36 * delta / (delta + 38)
termination_by delta
decreasing_by exact Nat.div_lt_self (by omega) (by omega)

/-- The bias for the next distance, after one at `count` characters. -/
def adapt (delta count : Nat) (first : Bool) : Nat :=
  let d := if first then delta / 700 else delta / 2
  settle (d + d / count) 0

/-- A distance in digits of varying thresholds. -/
def digits (bias : Nat) : Nat → Nat → Nat → List Char
  | 0, _, _ => []
  | fuel + 1, k, q =>
    let t := threshold k bias
    if q < t then [digit q]
    else digit (t + (q - t) % (36 - t)) :: digits bias fuel (k + 36) ((q - t) / (36 - t))

structure State where
  output : List Char
  delta : Nat
  bias : Nat
  handled : Nat

/-- One character of the text, while those at `point` are being placed. -/
def visit (basic point : Nat) (s : State) (c : Char) : State :=
  if c.toNat < point then { s with delta := s.delta + 1 }
  else if c.toNat = point then
    { output := s.output ++ digits s.bias (s.delta + 1) 36 s.delta
      delta := 0
      bias := adapt s.delta (s.handled + 1) (s.handled = basic)
      handled := s.handled + 1 }
  else s

/-- Places all characters at the next point that occurs in the text. -/
def pass (text : List Char) (basic : Nat) (sn : State × Nat) (point : Nat) : State × Nat :=
  let s := { sn.1 with delta := sn.1.delta + (point - sn.2) * (sn.1.handled + 1) }
  let s := text.foldl (visit basic point) s
  ({ s with delta := s.delta + 1 }, point + 1)

def encode (text : List Char) : List Char :=
  let basic := text.filter (·.toNat < 128)
  let points := ((text.map Char.toNat).filter (128 ≤ ·)).mergeSort.eraseReps
  let start := if basic = [] then [] else basic ++ ['-']
  (points.foldl (pass text basic.length) (⟨start, 0, 72, basic.length⟩, 128)).1.output

end Turnstile.Url.Punycode

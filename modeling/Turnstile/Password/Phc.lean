import Turnstile.Base64

/-!
Password hashes as text: the algorithm, its version and parameters, the salt and the output, each
after a dollar sign. All but the algorithm may be left out, in that order.
-/

namespace Turnstile.Password

structure Phc where
  algorithm : String
  version : Option Nat
  params : List (String × String)
  salt : Option String
  output : Option Bytes
  deriving DecidableEq, Repr

namespace Phc

def isIdentChar (c : Char) : Bool := c.isLower || c.isDigit || c = '-'

def isValueChar (c : Char) : Bool := c.isAlphanum || ['/', '+', '.', '-'].contains c

def ident? (s : List Char) : Option String :=
  if s ≠ [] ∧ s.length ≤ 32 ∧ s.all isIdentChar then some (String.ofList s) else none

def value? (s : List Char) : Option String :=
  if s.length ≤ 64 ∧ s.all isValueChar then some (String.ofList s) else none

def numeral (s : List Char) : Nat := s.foldl (fun n c => 10 * n + (c.toNat - 48)) 0

/-- A number of 32 bits without sign or leading zeros. -/
def decimal? (s : List Char) : Option Nat :=
  if s ≠ [] ∧ s.all Char.isDigit ∧ ¬(s.head? = some '0' ∧ 1 < s.length) ∧ s.length ≤ 10 ∧
      numeral s < 4294967296 then
    some (numeral s)
  else none

def param? (s : List Char) : Option (String × String) :=
  match s.splitOn '=' with
  | [name, value] => do return (← ident? name, ← value? value)
  | _ => none

def params? (s : List Char) : Option (List (String × String)) :=
  if s.length ≤ 127 then (s.splitOn ',').mapM param? else none

def minSaltLength : Nat := 4

def maxSaltLength : Nat := 64

def salt? (s : List Char) : Option String :=
  if minSaltLength ≤ s.length ∧ s.length ≤ maxSaltLength then value? s else none

/-- Outputs have 10 to 64 bytes. -/
def output? (s : List Char) : Option Bytes := do
  let b ← Base64.decode? .standard s
  if 10 ≤ b.length ∧ b.length ≤ 64 then some b else none

/-- The version, if the first field gives one, and the remaining fields. -/
def takeVersion : List (List Char) → Option (Option Nat × List (List Char))
  | ('v' :: '=' :: digits) :: rest =>
    if ',' ∈ digits then some (none, ('v' :: '=' :: digits) :: rest)
    else do return (some (← decimal? digits), rest)
  | fields => some (none, fields)

def takeParams : List (List Char) → Option (List (String × String) × List (List Char))
  | field :: rest =>
    if '=' ∈ field then do return (← params? field, rest) else some ([], field :: rest)
  | [] => some ([], [])

def takeSaltAndOutput : List (List Char) → Option (Option String × Option Bytes)
  | [] => some (none, none)
  | [salt] => do return (some (← salt? salt), none)
  | [salt, output] => do return (some (← salt? salt), some (← output? output))
  | _ => none

def ofText? (s : List Char) : Option Phc :=
  match s.splitOn '$' with
  | [] :: algorithm :: fields => do
    let algorithm ← ident? algorithm
    let (version, fields) ← takeVersion fields
    let (params, fields) ← takeParams fields
    let (salt, output) ← takeSaltAndOutput fields
    return ⟨algorithm, version, params, salt, output⟩
  | _ => none

def parse? (s : String) : Option Phc := ofText? s.toList

def commaSeparated (params : List (String × String)) : String :=
  ",".intercalate (params.map fun p => p.1 ++ "=" ++ p.2)

def render (p : Phc) : String :=
  "$" ++ p.algorithm ++
    (p.version.map fun v => s!"$v={v}").getD "" ++
    (if p.params = [] then "" else "$" ++ commaSeparated p.params) ++
    (p.salt.map fun s => "$" ++ s).getD "" ++
    (p.output.map fun b => "$" ++ Base64.encodeText .standard b).getD ""

end Phc

end Turnstile.Password

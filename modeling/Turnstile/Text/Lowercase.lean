import Turnstile.Text.CaseContext
import Turnstile.Text.LowercaseTable

/-!
Full lower-casing. Two characters do not follow the table: a capital I with a dot becomes an i and
a combining dot, and a capital sigma becomes a final sigma at the end of a word.
-/

namespace Turnstile.Text

def CaseRun.image? (r : CaseRun) (n : Nat) : Option Nat :=
  if r.first ≤ n ∧ n ≤ r.last ∧ (n - r.first) % r.step = 0 then some (r.image + (n - r.first))
  else none

def lowercaseChar (c : Char) : Char :=
  if c.toNat < 0x80 then c.toLower
  else ((lowercaseRuns.findSome? (·.image? c.toNat)).map Char.ofNat).getD c

/-- Whether the first character that is not passed over is a letter with case. -/
def casedAhead (s : List Char) : Bool :=
  match s.dropWhile isCaseIgnorable with
  | [] => false
  | c :: _ => isCased c

/-- `before` is what precedes the character, nearest first. -/
def lowercaseAt (before : List Char) (c : Char) (after : List Char) : List Char :=
  if c = 'Σ' then
    if casedAhead before && !casedAhead after then ['ς'] else ['σ']
  else if c = 'İ' then ['i', Char.ofNat 0x307]
  else [lowercaseChar c]

def lowercaseFrom (before out : List Char) : List Char → List Char
  | [] => out.reverse
  | c :: after =>
    lowercaseFrom (c :: before) ((lowercaseAt before c after).reverse ++ out) after

def lowercase (s : String) : String := String.ofList (lowercaseFrom [] [] s.toList)

end Turnstile.Text

import Turnstile.Text.Blank

/-!
Patterns that a whole text is held against: classes of characters in a row, each met once, or once
and more. Matching goes through the text once. It keeps every place of the pattern that the text so
far may have come to, so it need not guess where a piece that repeats ends.
-/

namespace Turnstile.Text

inductive CharClass where
  | only (c : Char)
  /-- Neither the character nor white space. -/
  | allBut (c : Char)
  deriving DecidableEq, Repr

def CharClass.contains : CharClass → Char → Bool
  | only d, c => c = d
  | allBut d, c => c ≠ d && !isBlank c

structure Piece where
  chars : CharClass
  repeats : Bool
  deriving DecidableEq, Repr

abbrev Pattern := List Piece

namespace Pattern

/-- What is left of a pattern after a character. A piece that repeats is passed and still ahead. -/
def after (c : Char) : Pattern → List Pattern
  | [] => []
  | piece :: rest =>
    if piece.chars.contains c then rest :: (if piece.repeats then [piece :: rest] else []) else []

def step (places : List Pattern) (c : Char) : List Pattern := (places.flatMap (after c)).eraseDups

/-- The whole text matches when nothing of the pattern has to be left after it. -/
def accepts (p : Pattern) (s : List Char) : Bool := (s.foldl step [p]).contains []

end Pattern

end Turnstile.Text

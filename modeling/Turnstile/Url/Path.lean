import Turnstile.Text.Percent
import Turnstile.Url.Address

/-!
Hierarchical paths. Dot segments are resolved, and what may not stand in a path is percent-encoded.
-/

namespace Turnstile.Url

def encodedInFragment : List Char := [' ', '"', '<', '>', '\x60']

def encodedInPath : List Char := encodedInFragment ++ ['#', '?', '{', '}']

def encodedInUser : List Char :=
  encodedInPath ++ ['/', ':', ';', '=', '@', '[', '\\', ']', '^', '|']

def encodedInQuery (web : Bool) : List Char :=
  [' ', '"', '#', '<', '>'] ++ (if web then ['\''] else [])

def dotForms : List String := [".", "%2e"]

def doubleDotForms : List String := ["..", ".%2e", "%2e.", "%2e%2e"]

def isDot (s : List Char) : Bool := dotForms.contains (String.ofList (s.map Char.toLower))

def isDoubleDot (s : List Char) : Bool := doubleDotForms.contains (String.ofList (s.map Char.toLower))

/-- The segments after some that are already there, the latest first. A dot segment at the end leaves
an empty segment. -/
def resolve : List (List Char) → List (List Char) → List (List Char)
  | done, [] => done
  | done, s :: rest =>
    let close (d : List (List Char)) : List (List Char) := if rest = [] then [] :: d else d
    if isDoubleDot s then resolve (close done.tail) rest
    else if isDot s then resolve (close done) rest
    else resolve (Percent.encode encodedInPath s :: done) rest

def segments (s : List Char) : List (List Char) := (resolve [] (s.splitOn '/')).reverse

def pathText (segments : List (List Char)) : List Char := segments.flatMap ('/' :: ·)

/-- A path below a host that needs one: it starts with a slash whether that is written or not. -/
def rootedSegments : List Char → List (List Char)
  | '/' :: rest => segments rest
  | s => segments s

end Turnstile.Url

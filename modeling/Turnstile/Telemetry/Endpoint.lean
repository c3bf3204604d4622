/-!
Whether a text can be the address of a collector: a URI with an authority, or an authority alone. It is
checked from left to right and the first fault decides.
-/

namespace Turnstile.Telemetry

inductive UriFault where
  | empty | tooLong | schemeTooLong | character | authority | format
  deriving DecidableEq, Repr

def UriFault.message : UriFault → String
  | .empty => "empty string"
  | .tooLong => "uri too long"
  | .schemeTooLong => "scheme too long"
  | .character => "invalid uri character"
  | .authority => "invalid authority"
  | .format => "invalid format"

/-- What has been seen of an authority. A user part makes everything before it count for nothing. -/
structure AuthorityScan where
  colons : Nat
  opened : Bool
  closed : Bool
  percent : Bool
  deriving DecidableEq, Repr

def isPlain (c : Char) : Bool :=
  c.isAlphanum || ['!', '$', '&', '\'', '(', ')', '*', '+', ',', '-', '.', ';', '=', '_', '~'].contains c

def AuthorityScan.step (a : AuthorityScan) (c : Char) : Except UriFault AuthorityScan :=
  if c = ':' then
    if 8 ≤ a.colons then .error .authority else .ok { a with colons := a.colons + 1 }
  else if c = '[' then
    if a.percent ∨ a.opened then .error .authority else .ok { a with opened := true }
  else if c = ']' then
    if !a.opened ∨ a.closed then .error .authority
    else .ok { a with closed := true, colons := 0, percent := false }
  else if c = '@' then .ok { a with colons := 0, percent := false }
  else if c = '%' then .ok { a with percent := true }
  else if isPlain c then .ok a
  else .error .character

def endsAuthority (c : Char) : Bool := c = '/' || c = '?' || c = '#'

/-- Checks the authority that a text begins with and yields what comes after it. -/
def authority (s : List Char) : Except UriFault (List Char × List Char) := do
  if s = [] then throw .empty
  let text := s.takeWhile (!endsAuthority ·)
  let a ← text.foldlM AuthorityScan.step ⟨0, false, false, false⟩
  if a.opened ≠ a.closed ∨ 1 < a.colons ∨ text.getLast? = some '@' ∨ a.percent then throw .authority
  return (text, s.drop text.length)

def pathBanned : List Char := ['#', '<', '>', '?', '\x60']

def isPathChar (c : Char) : Bool := decide (33 ≤ c.toNat) && !pathBanned.contains c

def queryBanned : List Char := ['"', '#', '<', '>']

def isQueryChar (c : Char) : Bool := decide (33 ≤ c.toNat) && !queryBanned.contains c

/-- Checks a path with its query. A fragment may be anything. -/
def pathAndQuery (s : List Char) : Except UriFault Unit :=
  let rest := s.dropWhile isPathChar
  match rest with
  | [] | '#' :: _ => .ok ()
  | '?' :: query =>
    match query.dropWhile isQueryChar with
    | [] | '#' :: _ => .ok ()
    | _ => .error .character
  | _ => .error .character

def isSchemeChar (c : Char) : Bool :=
  c.isAlphanum || c = '+' || c = '-' || c = '.' || c = '~'

/-- The text after a scheme and its slashes, if it has one. -/
def afterScheme? (s : List Char) : Except UriFault (Option (List Char)) :=
  let name := s.takeWhile isSchemeChar
  match s.drop name.length with
  | ':' :: '/' :: '/' :: rest =>
    if name = [] ∧ rest = [] then .ok none
    else if 64 < name.length then .error .schemeTooLong
    else .ok (some rest)
  | _ => .ok none

def checkUri (text : String) : Except UriFault Unit := do
  if 65534 < text.utf8ByteSize then throw .tooLong
  match text.toList with
  | [] => throw .empty
  | ['*'] => return ()
  | '/' :: rest => pathAndQuery ('/' :: rest)
  | s =>
    match ← afterScheme? s with
    | none =>
      let (_, rest) ← authority s
      if rest ≠ [] then throw (if s.length = 1 then .character else .format)
    | some s =>
      let (name, rest) ← authority s
      if name = [] then throw .format
      pathAndQuery rest

end Turnstile.Telemetry

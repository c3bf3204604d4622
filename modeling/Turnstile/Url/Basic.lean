import Turnstile.Url.Host
import Turnstile.Url.Library
import Turnstile.Url.Path

/-!
Reading and writing URLs, as far as a connection string needs them. The schemes of the web have their
own rules: backslashes are slashes, a host is needed and a default port is dropped.
-/

namespace Turnstile

inductive UrlPath where
  | segments (list : List (List Char))
  /-- The path of a URL without any hierarchy, such as a mail address. -/
  | flat (text : List Char)
  deriving DecidableEq, Repr

structure UrlAuthority where
  username : List Char
  password : Option (List Char)
  host : List Char
  port : Option Nat
  deriving DecidableEq, Repr

structure Url where
  scheme : List Char
  authority : Option UrlAuthority
  path : UrlPath
  query : Option (List Char)
  fragment : Option (List Char)
  deriving DecidableEq, Repr

namespace UrlPath

def text : UrlPath → List Char
  | segments list => Url.pathText list
  | flat t => t

end UrlPath

namespace UrlAuthority

def userText (a : UrlAuthority) : List Char :=
  if a.username = [] ∧ a.password = none then []
  else a.username ++ (a.password.map (':' :: ·)).getD [] ++ ['@']

def text (a : UrlAuthority) : List Char :=
  a.userText ++ a.host ++ (a.port.map fun p => ':' :: (toString p).toList).getD []

end UrlAuthority

namespace Url

def defaultPort? (scheme : List Char) : Option Nat :=
  (([("http", 80), ("https", 443), ("ws", 80), ("wss", 443), ("ftp", 21)] :
    List (String × Nat)).find? (·.1.toList = scheme)).map Prod.snd

def isFile (scheme : List Char) : Bool := decide (scheme = "file".toList)

def isWeb (scheme : List Char) : Bool := (defaultPort? scheme).isSome || isFile scheme

def authorityText (u : Url) : List Char :=
  match u.authority with
  | some a => ['/', '/'] ++ a.text
  | none =>
    match u.path with
    | .segments ([] :: _ :: _) => ['/', '.']
    | _ => []

def text (u : Url) : String :=
  String.ofList (u.scheme ++ ':' :: u.authorityText ++ u.path.text ++
    (u.query.map ('?' :: ·)).getD [] ++ (u.fragment.map ('#' :: ·)).getD [])

/-- White space around the text and line structure inside it do not count. -/
def cleaned (s : String) : List Char :=
  let outer (c : Char) : Bool := decide (c.toNat ≤ 32)
  (((s.toList.dropWhile outer).reverse.dropWhile outer).reverse).filter fun c =>
    c ≠ '\t' && c ≠ '\n' && c ≠ '\r'

def scheme? (s : List Char) : Option (List Char × List Char) :=
  let name := s.takeWhile fun c => c.isAlphanum || c = '+' || c = '-' || c = '.'
  match s.drop name.length with
  | ':' :: rest =>
    if name.head?.any Char.isAlpha then some (name.map Char.toLower, rest) else none
  | _ => none

/-- The part before the first occurrence of a character, and the part after it if there is one. -/
def cut (c : Char) (s : List Char) : List Char × Option (List Char) :=
  let before := s.takeWhile (· ≠ c)
  (before, if before.length < s.length then some (s.drop (before.length + 1)) else none)

/-- The text before and after the last at sign. -/
def lastAt (s : List Char) : Option (List Char) × List Char :=
  let tail := s.reverse.takeWhile (· ≠ '@')
  if tail.length < s.length then (some (s.take (s.length - tail.length - 1)), tail.reverse)
  else (none, s)

/-- A password as a URL keeps it; an empty one counts as none. -/
def keptPassword (s : List Char) : Option (List Char) :=
  if s = [] then none else some (Percent.encode encodedInUser s)

def userInfo (s : List Char) : List Char × Option (List Char) :=
  let (name, password) := cut ':' s
  (Percent.encode encodedInUser name, password.bind keptPassword)

/-- The part of a host and port before the port's colon; colons within brackets do not count. -/
def hostPart (inBrackets : Bool) : List Char → List Char
  | [] => []
  | c :: rest =>
    if c = ':' ∧ !inBrackets then []
    else c :: hostPart (if c = '[' then true else if c = ']' then false else inBrackets) rest

/-- A port and what comes after it. Within an authority only a backslash may come after it. -/
def port? (s : List Char) : Option (Option Nat × List Char) :=
  let digits := s.takeWhile Char.isDigit
  let rest := s.drop digits.length
  if rest ≠ [] ∧ rest.head? ≠ some '\\' then none
  else if digits = [] then some (none, rest)
  else ((number? 10 digits).filter (· < 65536)).map fun port => (some port, rest)

/-- An authority and what of its text belongs to the path, `more` telling whether anything comes after
it. Credentials and ports need a host, and so does any scheme of the web. -/
def authority? (scheme : List Char) (more : Bool) (s : List Char) :
    Option (UrlAuthority × List Char) := do
  let (user, rest) := lastAt s
  let (username, password) := userInfo (user.getD [])
  let written := hostPart false rest
  let after := rest.drop written.length
  let needed := isWeb scheme ∨ username ≠ [] ∨ password ≠ none ∨ after ≠ [] ∨
    (user = some [] ∧ more)
  if written = [] ∧ needed then none
  else
    let host ← host? (isWeb scheme) written
    let (port, left) ← port? after.tail
    some (⟨username, password, host, if port = defaultPort? scheme then none else port⟩, left)

/-- What the schemes agree on: the text between the scheme and the query, read by scheme. -/
structure Hierarchy where
  authority : Option UrlAuthority
  path : UrlPath

def isSlash (c : Char) : Bool := c = '/'

def fileHierarchy? (s : List Char) : Option Hierarchy := do
  let (host, path) := match s with
    | '/' :: '/' :: rest => (rest.takeWhile (· ≠ '/'), rest.dropWhile (· ≠ '/'))
    | _ => ([], s)
  let host ← if host = [] then some [] else host? true host
  let found := (rootedSegments path).dropWhile (· = [])
  return ⟨some ⟨[], none, if host = "localhost".toList then [] else host, none⟩,
    .segments (if found = [] then [[]] else found)⟩

def webHierarchy? (scheme s : List Char) (more : Bool) : Option Hierarchy := do
  let rest := s.dropWhile isSlash
  let path := rest.dropWhile (· ≠ '/')
  let (authority, left) ← authority? scheme (path ≠ [] || more) (rest.takeWhile (· ≠ '/'))
  return ⟨some authority, .segments (rootedSegments (left ++ path))⟩

def otherHierarchy? (scheme s : List Char) (more : Bool) : Option Hierarchy :=
  match s with
  | '/' :: '/' :: rest => do
    let path := rest.dropWhile (· ≠ '/')
    let (authority, left) ← authority? scheme (path ≠ [] || more) (rest.takeWhile (· ≠ '/'))
    return ⟨some authority,
      .segments (if left ++ path = [] then [] else rootedSegments (left ++ path))⟩
  | '/' :: rest => some ⟨none, .segments (segments rest)⟩
  | s => some ⟨none, .flat (Percent.encode [] s)⟩

def hierarchy? (scheme s : List Char) (more : Bool) : Option Hierarchy :=
  let slashed := s.map fun c => if c = '\\' then '/' else c
  if isFile scheme then fileHierarchy? slashed
  else if isWeb scheme then webHierarchy? scheme slashed more
  else otherHierarchy? scheme s more

def parse? (s : String) : Option Url := do
  let (scheme, rest) ← scheme? (cleaned s)
  let (rest, fragment) := cut '#' rest
  let (rest, query) := cut '?' rest
  let h ← hierarchy? scheme rest (query.isSome || fragment.isSome)
  return {
    scheme := scheme
    authority := h.authority
    path := h.path
    query := query.map (Percent.encode (encodedInQuery (isWeb scheme)))
    fragment := fragment.map (Percent.encode encodedInFragment) }

def password? (u : Url) : Option (List Char) := u.authority.bind (·.password)

/-- The URL with another password, if it has a host to put it in front of. -/
def setPassword? (u : Url) (password : String) : Option Url :=
  match u.authority with
  | some a =>
    if a.host = [] ∨ isFile u.scheme then none
    else some { u with authority := some { a with password := keptPassword password.toList } }
  | none => none

/-- An empty host counts as none. -/
def parts (u : Url) : UrlParts where
  scheme := String.ofList u.scheme
  username := String.ofList ((u.authority.map (·.username)).getD [])
  host := u.authority.bind fun a => if a.host = [] then none else some (String.ofList a.host)
  port := u.authority.bind (·.port)
  path := String.ofList u.path.text
  query := u.query.map String.ofList
  fragment := u.fragment.map String.ofList

/-- The URLs of this module as a library. -/
def library : UrlLibrary where
  Url := Url
  parse? := parse?
  parts := parts
  password? u := u.password?.map String.ofList
  setPassword? := setPassword?
  text := text

end Url

end Turnstile

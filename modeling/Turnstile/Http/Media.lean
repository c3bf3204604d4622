import Turnstile.Http.Message

/-!
Media types: a type, a subtype and parameters. Only a request that says it carries JSON is read as
JSON, and a type with a malformed parameter says nothing.
-/

namespace Turnstile.Http

def isTokenChar (c : Char) : Bool :=
  c.isAlphanum || ['!', '#', '$', '%', '&', '\'', '*', '+', '-', '.', '^', '_', '\x60', '|', '~'].contains c

def isQuotable (c : Char) : Bool := decide (32 ≤ c.toNat) && c.toNat ≠ 127

/-- What follows a quoted value of at least one character, after its opening quote. -/
def afterQuoted? (nonempty : Bool) : List Char → Option (List Char)
  | [] => none
  | '\\' :: c :: rest => if isQuotable c then afterQuoted? true rest else none
  | c :: rest =>
    if c = '"' ∧ nonempty then some rest
    else if c ≠ '\\' ∧ isQuotable c then afterQuoted? true rest
    else none

/-- What follows the semicolon after a quoted value. -/
def nextParameter? (s : List Char) : Option (List Char) :=
  match s.dropWhile (· = ' ') with
  | [] => some []
  | ';' :: rest => some rest
  | _ => none

/-- What follows a parameter and the semicolon after it. -/
def afterParameter? (s : List Char) : Option (List Char) :=
  let name := s.takeWhile isTokenChar
  match s.drop name.length with
  | '=' :: value =>
    if name = [] then none
    else match value with
      | '"' :: quoted => (afterQuoted? false quoted).bind nextParameter?
      | _ =>
        let token := value.takeWhile isTokenChar
        match value.drop token.length with
        | [] => some []
        | ';' :: rest => if token = [] then none else some rest
        | _ => none
  | _ => none

/-- Whether a text is a list of parameters, spaces before each allowed. -/
def areParameters : Nat → List Char → Bool
  | 0, _ => false
  | fuel + 1, s =>
    match s.dropWhile (· = ' ') with
    | [] => true
    | s =>
      match afterParameter? s with
      | some rest => areParameters fuel rest
      | none => false

structure MediaType where
  kind : List Char
  subtype : List Char
  suffix : Option (List Char)
  deriving DecidableEq, Repr

namespace MediaType

/-- A subtype is split at its last plus sign, unless it starts with that one. -/
def splitSubtype (s : List Char) : List Char × Option (List Char) :=
  let tail := s.reverse.takeWhile (· ≠ '+')
  if tail.length + 1 < s.length then (s.take (s.length - tail.length - 1), some tail.reverse)
  else (s, none)

def parse? (s : String) : Option MediaType :=
  let lower := s.toList.map Char.toLower
  let kind := lower.takeWhile isTokenChar
  match lower.drop kind.length with
  | '/' :: rest =>
    let whole := rest.takeWhile isTokenChar
    let parameters := rest.drop whole.length
    if kind = [] ∨ whole = [] then none
    else if parameters = [] ∨
        ((parameters.head? = some ';' ∨ parameters.head? = some ' ') ∧
          areParameters (parameters.length + 1) parameters.tail) then
      some ⟨kind, (splitSubtype whole).1, (splitSubtype whole).2⟩
    else none
  | _ => none

def jsonName : List Char := ['j', 's', 'o', 'n']

/-- JSON itself, or an application format that is written in it. -/
def isJson (m : MediaType) : Bool :=
  decide (m.kind = "application".toList) && (m.subtype = jsonName || m.suffix = some jsonName)

end MediaType

def Headers.sayJson (h : Headers) : Bool :=
  ((h.visible? "content-type").bind MediaType.parse?).any MediaType.isJson

end Turnstile.Http

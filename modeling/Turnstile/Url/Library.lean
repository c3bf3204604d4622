/-!
What the server asks of a library of URLs: to read one, to look for its password, to put another in its
place, and to write the URL down again.
-/

namespace Turnstile

/-- What a URL says besides its password. -/
structure UrlParts where
  scheme : String
  username : String
  host : Option String
  port : Option Nat
  path : String
  query : Option String
  fragment : Option String
  deriving DecidableEq, Repr

structure UrlLibrary where
  Url : Type
  parse? : String → Option Url
  parts : Url → UrlParts
  password? : Url → Option String
  /-- Absent for a URL that has no place for a password. -/
  setPassword? : Url → String → Option Url
  text : Url → String

end Turnstile

import Std.Data.ExtTreeMap
import Turnstile.Json.Reader
import Turnstile.Rights.Basic

/-!
Rights as text. A request is a map from any names to any lists of names and is validated in the order
of its names; a stored value is read back strictly. Requests have the names that callers are told,
stored values those that follow from identifiers.
-/

namespace Turnstile.Rights

/-- Names as they come in, not yet known to mean anything. -/
abbrev Request := Std.ExtTreeMap String (List String)

def parseEntry (r : Rights) (e : String × List String) : Except Error Rights := do
  let s ← Section.parse e.1
  let ps ← PermissionSet.parse e.2
  return r.put s ps

def parse (q : Request) : Except Error Rights :=
  if q.isEmpty then .error .emptyRights else q.toList.foldlM parseEntry empty

/-- Sections named without permissions are dropped, and something has to be left. -/
def parseCompact (q : Request) : Except Error Rights := do
  let r ← parse q
  if r.compact.isEmpty then throw .emptyRights else return r.compact

def namedEntries (r : Rights) : List (String × List String) :=
  r.entries.map fun e => (e.1.name, e.2.names)

def toRequest (r : Rights) : Request := Std.ExtTreeMap.ofList r.namedEntries

open Json (Value)

/-- The form in which rights are sent. -/
def Request.toValue (q : Request) : Value := .record (q.toList.map fun e => (e.1, .texts e.2))

/-- The form in which rights are stored. -/
def toValue (r : Rights) : Value :=
  .record (r.entries.map fun e => (e.1.storedName, .texts (e.2.toList.map Permission.storedName)))

/-- A permission is a name, or a record that maps one name to null. -/
def permissionOfValue? : Value → Option Permission
  | .text s | .record [(s, .null)] => Permission.ofStoredName? s
  | _ => none

def setOfValue? : Value → Option PermissionSet
  | .list xs => (xs.mapM permissionOfValue?).map .ofList
  | _ => none

def putMember (r : Rights) (m : String × Value) : Option Rights := do
  return r.put (← Section.ofStoredName? m.1) (← setOfValue? m.2)

/-- The stored form read back: every name has to be known. -/
def ofValue? : Value → Option Rights
  | .record ms => ms.foldlM putMember empty
  | _ => none

/-- Sections by their names, each with a list of permissions. -/
def storedReader : Json.Reader := Json.table (Json.list (Json.any 2))

/-- The stored text read back. -/
def ofText? (s : String) : Option Rights :=
  (Json.read storedReader (Json.wire (.ofText s))).toOption.bind ofValue?

end Turnstile.Rights

import Turnstile.Rights.Basic

/-!
Joining rights and taking them away. Merging unites section by section. Revoking takes permissions
from sections that have to be there; a section named without permissions goes as a whole, and so does
one with nothing left.
-/

namespace Turnstile.Rights

def merge (current incoming : Rights) : Rights :=
  incoming.entries.foldl (fun r e => r.insert e.1 e.2) current

/-- Takes one entry away. -/
def revokeEntry (remaining : Rights) (e : Section × PermissionSet) : Except Error Rights :=
  match remaining.get? e.1 with
  | none => .error (.sectionNotFound e.1.name)
  | some held =>
    if e.2.isEmpty || (held.diff e.2).isEmpty then .ok (remaining.remove e.1)
    else .ok (remaining.put e.1 (held.diff e.2))

/-- All or nothing; the first section that is missing is reported. -/
def revoke (current revoked : Rights) : Except Error Rights :=
  revoked.entries.foldlM revokeEntry current

end Turnstile.Rights

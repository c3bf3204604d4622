import Turnstile.Store.Basic

/-!
Rights of accounts, and the registry of roles, in the store. No two roles have the same name.
-/

namespace Turnstile.Store

def rights? (s : Store) (id : Uuid) : Option Rights := s.accounts[id]?.map (·.rights)

def replaceRights (s : Store) (id : Uuid) (r : Rights) : Bool × Store :=
  if id ∈ s.accounts then (true, s.modifyAccount id fun a => { a with rights := r }) else (false, s)

/-- Writes rights only where there are none. -/
def grantRights (id : Uuid) (r : Rights) (s : Store) : Bool × Store :=
  if (s.rights? id).any Rights.isEmpty then s.replaceRights id r else (false, s)

/-- An account's rights after a change, unless the change is refused. -/
def updateRights (id : Uuid) (change : Rights → Except Error Rights) (s : Store) :
    Except Error Rights × Store :=
  match s.rights? id with
  | none => (.error (.notFound "user"), s)
  | some r =>
    match change r with
    | .error e => (.error e, s)
    | .ok r => (.ok r, s.modifyAccount id fun a => { a with rights := r })

def roleNameTaken (s : Store) (r : Role) : Bool :=
  s.roles.toList.any fun e => e.2.name = r.name ∧ e.2.id ≠ r.id

def roleConflict (r : Role) : Error := .conflict s!"role {r.name.text} already exists"

def insertRole (r : Role) (s : Store) : Except Error Unit × Store :=
  if s.roleNameTaken r then (.error (roleConflict r), s)
  else (.ok (), { s with roles := s.roles.insert r.id r })

/-- Tells whether the role exists; only then can its name be in conflict. -/
def updateRole (r : Role) (s : Store) : Except Error Bool × Store :=
  if r.id ∈ s.roles then
    if s.roleNameTaken r then (.error (roleConflict r), s)
    else (.ok true, { s with roles := s.roles.insert r.id r })
  else (.ok false, s)

def deleteRole (id : Uuid) (s : Store) : Bool × Store :=
  (s.roles.contains id, { s with roles := s.roles.erase id })

def role? (s : Store) (id : Uuid) : Option Role := s.roles[id]?

/-- All roles in the byte order of their names. -/
def roleList (s : Store) : List Role :=
  (s.roles.toList.map Prod.snd).mergeSort fun a b => decide (a.name.text ≤ b.name.text)

end Turnstile.Store

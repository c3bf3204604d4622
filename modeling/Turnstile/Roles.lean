import Turnstile.Database
import Turnstile.Store.Rights

/-!
The registry of roles.
-/

namespace Turnstile.Roles

def add (id : Uuid) (q : RoleRequest) : Action Role := do
  let r ← q.validate id
  Action.call (Store.insertRole r)
  return r

def edit (id : Uuid) (q : RoleRequest) : Action Role := do
  let r ← q.validate id
  Action.require (← Action.call (Store.updateRole r)) (.notFound "role")
  return r

def delete (id : Uuid) : Action Unit := do
  Action.require (← Action.change (Store.deleteRole id)) (.notFound "role")

def list : Action (List Role) := Action.query Store.roleList

def rights (id : Uuid) : Action Rights := do
  Action.found (.notFound "role") ((← Action.query (·.role? id)).map Role.rights)

end Turnstile.Roles

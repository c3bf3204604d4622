import Turnstile.Database
import Turnstile.Rights.Algebra
import Turnstile.Store.Rights

/-!
Giving rights to users and taking them away, directly or by a role.
-/

namespace Turnstile.Grants

/-- The first rights of a user who has none. -/
def grant (user : Uuid) (q : Rights.Request) : Action Rights := do
  let r ← Rights.parseCompact q
  if ← Action.change (Store.grantRights user r) then return r
  match ← Action.query (·.rights? user) with
  | some _ => throw .alreadyHasRights
  | none => throw (.notFound "user")

/-- All rights of a user replaced. -/
def edit (user : Uuid) (q : Rights.Request) : Action Rights := do
  let r ← Rights.parseCompact q
  Action.require (← Action.change (Store.replaceRights · user r)) (.notFound "user")
  return r

def revoke (user : Uuid) (q : Rights.Request) : Action Rights := do
  let revoked ← Rights.parse q
  Action.call (Store.updateRights user (Rights.revoke · revoked))

/-- A role's rights copied onto a user, joined with the user's own or in their place. -/
def assign (user role : Uuid) (merge : Bool) : Action Rights := do
  let r ← Action.found (.notFound "role") (← Action.query (·.role? role))
  Action.call (Store.updateRights user fun own =>
    .ok (if merge then own.merge r.rights else r.rights))

end Turnstile.Grants

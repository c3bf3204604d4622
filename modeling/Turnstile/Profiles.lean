import Turnstile.Database
import Turnstile.Password.Hash
import Turnstile.Password.Policy
import Turnstile.Phone
import Turnstile.Store.Credentials
import Turnstile.Store.Rights

/-!
Reading an account, and changing its phone and password together.
-/

namespace Turnstile

/-- What may be shown of an account: everything but the password hash. -/
structure Profile where
  id : Uuid
  phone : String
  email : Option String
  firstName : Option String
  lastName : Option String
  roles : List String
  entitlements : List String
  createdAt : Instant
  updatedAt : Instant
  deriving DecidableEq, Repr

def Account.profile (a : Account) : Profile :=
  ⟨a.id, a.phone, a.email, a.firstName, a.lastName, a.roles, a.entitlements, a.createdAt,
    a.updatedAt⟩

namespace Profiles

def get (id : Uuid) : Action Profile := do
  Action.found (.notFound "user") ((← Action.query (·.account? id)).map Account.profile)

def edit (wall : Instant) (salt : Bytes) (id : Uuid) (phone password : String) :
    Action Profile := do
  let phone := Phone.normalize phone
  Phone.validate phone
  Password.validate password
  let known ← Action.call (Store.updateCredentials id phone (Password.hash salt password) wall)
  Action.require known (.notFound "user")
  get id

def rights (id : Uuid) : Action Rights := do
  Action.found (.notFound "user") (← Action.query (·.rights? id))

end Profiles

end Turnstile

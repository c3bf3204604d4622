import Turnstile.Email
import Turnstile.Lockout
import Turnstile.Password.Hash
import Turnstile.Password.Policy
import Turnstile.Phone
import Turnstile.Settings
import Turnstile.Store.Credentials
import Turnstile.Token.Access
import Turnstile.Token.Refresh

/-!
Registering, logging in, refreshing and logging out. Random values are arguments: the identifier and
salt of a new account, the bytes of a new refresh token.
-/

namespace Turnstile

structure Registration where
  phone : String
  email : Option String
  password : String
  firstName : Option String
  lastName : Option String
  deriving DecidableEq, Repr

structure TokenPair where
  access : String
  refresh : String
  deriving DecidableEq, Repr

namespace Authentication

/-- The account of a registration with everything in its normal form. -/
def Registration.account (r : Registration) (id : Uuid) (salt : Bytes) : NewAccount where
  id := id
  phone := Phone.normalize r.phone
  email := Email.normalize r.email
  passwordHash := Password.hash salt r.password
  firstName := Text.nonBlank? r.firstName
  lastName := Text.nonBlank? r.lastName

def Registration.validate (r : Registration) : Except Error Unit := do
  Phone.validate (Phone.normalize r.phone)
  unless (Email.normalize r.email).all Email.wellFormed do throw (.validation "invalid email")
  Password.validate r.password

def register (wall : Instant) (id : Uuid) (salt : Bytes) (r : Registration) : Action Uuid := do
  Registration.validate r
  if ← Action.query fun s =>
      s.accountExists (Phone.normalize r.phone) (Email.normalize r.email) then
    throw (.conflict "user already exists")
  Action.call (Store.insertAccount (Registration.account r id salt) wall)
  return id

def expiry (now : Instant) (lifetime : Duration) : Except Error Instant :=
  match now.after? lifetime with
  | some t => .ok t
  | none => .error (.internal "token expiry is out of range")

/-- An access token and a refresh token for an account. -/
def issuePair (secret : String) (wall : Instant) (random : Bytes) (a : Account)
    (lifetime : Duration) : Except Error TokenPair := do
  let access ← Token.issue secret wall a.id a.phone a.roles a.entitlements lifetime
  return ⟨access, Token.Refresh.ofBytes random⟩

/-- The account that a phone and a password belong to. -/
def identify? (s : Store) (phone password : String) : Option Account :=
  (s.accountByPhone? phone).filter fun a => Password.verify password a.passwordHash

/-- Only well-formed phones reach the ledger, and an attempt under a lock is not counted. -/
def login (c : Settings) (clocks : Clocks) (random : Bytes) (phone password : String) :
    Action TokenPair := do
  let phone := Phone.normalize phone
  if phone = "" ∨ password = "" then throw (.validation "phone and password are required")
  Phone.validate phone
  Lockout.check clocks.service phone
  match ← Action.query (identify? · phone password) with
  | none =>
    discard <| Lockout.recordFailure clocks.service phone
    throw .invalidCredentials
  | some account =>
    let pair ← issuePair c.secret clocks.wall random account (← c.accessLifetime)
    let expiresAt ← expiry clocks.service (← c.refreshLifetime)
    Action.call (Store.saveRefresh account.id ⟨Token.Refresh.digest pair.refresh, expiresAt⟩)
    return pair

/-- A presented token is spent for a new pair. -/
def refresh (c : Settings) (clocks : Clocks) (random : Bytes) (token : String) :
    Action TokenPair := do
  if token = "" then throw (.validation "refresh token is required")
  let current := Token.Refresh.digest token
  let owner ← Action.found .invalidRefreshToken
    (← Action.query (·.refreshOwner? current clocks.service))
  let account ← Action.found .invalidRefreshToken (← Action.query (·.account? owner))
  let pair ← issuePair c.secret clocks.wall random account (← c.grantLifetime)
  let expiresAt ← expiry clocks.service (← c.refreshLifetime)
  let rotated ← Action.change
    (Store.rotateRefresh account.id current ⟨Token.Refresh.digest pair.refresh, expiresAt⟩)
  Action.require rotated .invalidRefreshToken
  return pair

def logout (token : String) : Action Unit := do
  if token = "" then throw (.validation "refresh token is required")
  let revoked ← Action.change (Store.revokeRefresh (Token.Refresh.digest token))
  Action.require revoked .invalidRefreshToken

end Authentication

end Turnstile

import Turnstile.Authentication
import Turnstile.Grants
import Turnstile.Profiles
import Turnstile.Roles
import Turnstile.Scoping

/-!
Everything the service does, as data: an operation, the circumstances it runs in, and runs of any
number of them over one database.
-/

namespace Turnstile

inductive Operation where
  | register (r : Registration)
  | login (phone password : String)
  | refresh (token : String)
  | logout (token : String)
  | getUser (user : Uuid)
  | editUser (user : Uuid) (phone password : String)
  | getUserRights (user : Uuid)
  | grant (user : Uuid) (rights : Rights.Request)
  | editRights (user : Uuid) (rights : Rights.Request)
  | revoke (user : Uuid) (rights : Rights.Request)
  | assign (user role : Uuid) (merge : Bool)
  | addRole (role : RoleRequest)
  | editRole (id : Uuid) (role : RoleRequest)
  | deleteRole (id : Uuid)
  | getRoles
  | getRoleRights (id : Uuid)
  | addContext (user : Uuid) (merchant : Option String) (isGlobal : Bool)
  | editContext (user : Uuid) (isGlobal : Bool)
  | getContexts (user : Uuid)
  | deleteContext (user : Uuid) (merchant : String)
  | deleteContexts (user : Uuid)

inductive Reply where
  | done
  | registered (id : Uuid)
  | tokens (pair : TokenPair)
  | profile (p : Profile)
  | rights (r : Rights)
  | role (r : Role)
  | roles (rs : List Role)
  | contexts (c : UserContexts)
  | removed (count : Nat)
  deriving DecidableEq, Repr

/-- What the random source yields for one operation. -/
structure Entropy where
  id : Uuid
  salt : Bytes
  token : Bytes

/-- When an operation runs, and what is random in it. -/
structure Circumstances where
  clocks : Clocks
  entropy : Entropy

namespace Operation

def action (c : Settings) (now : Circumstances) : Operation → Action Reply
  | .register r => Reply.registered <$>
      Authentication.register now.clocks.wall now.entropy.id now.entropy.salt r
  | .login phone password => Reply.tokens <$>
      Authentication.login c now.clocks now.entropy.token phone password
  | .refresh token => Reply.tokens <$>
      Authentication.refresh c now.clocks now.entropy.token token
  | .logout token => (fun _ => Reply.done) <$> Authentication.logout token
  | .getUser user => Reply.profile <$> Profiles.get user
  | .editUser user phone password => Reply.profile <$>
      Profiles.edit now.clocks.wall now.entropy.salt user phone password
  | .getUserRights user => Reply.rights <$> Profiles.rights user
  | .grant user rights => Reply.rights <$> Grants.grant user rights
  | .editRights user rights => Reply.rights <$> Grants.edit user rights
  | .revoke user rights => Reply.rights <$> Grants.revoke user rights
  | .assign user role merge => Reply.rights <$> Grants.assign user role merge
  | .addRole role => Reply.role <$> Roles.add now.entropy.id role
  | .editRole id role => Reply.role <$> Roles.edit id role
  | .deleteRole id => (fun _ => Reply.done) <$> Roles.delete id
  | .getRoles => Reply.roles <$> Roles.list
  | .getRoleRights id => Reply.rights <$> Roles.rights id
  | .addContext user merchant isGlobal => Reply.contexts <$> Scoping.add user merchant isGlobal
  | .editContext user isGlobal => Reply.contexts <$> Scoping.edit user isGlobal
  | .getContexts user => Reply.contexts <$> Scoping.get user
  | .deleteContext user merchant => (fun _ => Reply.done) <$> Scoping.delete user merchant
  | .deleteContexts user => Reply.removed <$> Scoping.deleteAll user

end Operation

/-- One operation under its circumstances. -/
structure Event where
  circumstances : Circumstances
  operation : Operation

namespace Event

def answer (c : Settings) (e : Event) (db : Database) : Except Error Reply × Database :=
  (e.operation.action c e.circumstances).perform db

end Event

/-- The database after a run of events, whatever each of them answers. -/
def Database.after (c : Settings) (db : Database) (events : List Event) : Database :=
  events.foldl (fun db e => (e.answer c db).2) db

end Turnstile

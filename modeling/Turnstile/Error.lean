/-!
Everything an operation can refuse, with its wording and its coarse kind. The kind alone decides how
a caller over HTTP is answered.
-/

namespace Turnstile

inductive Error where
  | validation (message : String)
  | invalidCredentials
  | locked (retryAfterSeconds : Nat)
  | invalidRefreshToken
  | invalidAccessToken
  | expired
  | invalidSignature
  | conflict (message : String)
  | notFound (what : String)
  | sectionNotFound (name : String)
  | alreadyHasRights
  | invalidSection (name : String)
  | invalidPermission (name : String)
  | invalidRole (name : String)
  | emptyRights
  | storeUnavailable (cause : String)
  | signing (cause : String)
  | internal (message : String)
  deriving DecidableEq, Repr

inductive ErrorKind where
  | validation | unauthorized | locked | forbidden | notFound | conflict | unavailable | internal
  deriving DecidableEq, Repr

namespace ErrorKind

def code : ErrorKind → String
  | .validation => "validation"
  | .unauthorized => "unauthorized"
  | .locked => "locked"
  | .forbidden => "forbidden"
  | .notFound => "not_found"
  | .conflict => "conflict"
  | .unavailable => "unavailable"
  | .internal => "internal"

end ErrorKind

namespace Error

def kind : Error → ErrorKind
  | .validation _ | .invalidSection _ | .invalidPermission _ | .invalidRole _ | .emptyRights =>
    .validation
  | .invalidCredentials | .invalidAccessToken | .expired | .invalidSignature => .unauthorized
  | .locked _ => .locked
  | .invalidRefreshToken => .forbidden
  | .notFound _ | .sectionNotFound _ => .notFound
  | .conflict _ | .alreadyHasRights => .conflict
  | .storeUnavailable _ => .unavailable
  | .signing _ | .internal _ => .internal

def message : Error → String
  | .validation message => message
  | .invalidCredentials => "invalid credentials"
  | .locked seconds => s!"too many failed login attempts, retry in {seconds}s"
  | .invalidRefreshToken => "invalid refresh token"
  | .invalidAccessToken => "invalid access token"
  | .expired => "access token expired"
  | .invalidSignature => "invalid token signature"
  | .conflict message => message
  | .notFound what => what ++ " not found"
  | .sectionNotFound name => s!"section {name} does not exist"
  | .alreadyHasRights => "user already has rights"
  | .invalidSection name => "invalid section: " ++ name
  | .invalidPermission name => "invalid permission: " ++ name
  | .invalidRole name => "invalid role: " ++ name
  | .emptyRights => "rights cannot be empty"
  | .storeUnavailable cause => "store unavailable: " ++ cause
  | .signing cause => "failed to sign token: " ++ cause
  | .internal message => message

end Error

/-- What a database connection reports when a statement cannot be run. -/
inductive DatabaseFault where
  | poolTimedOut
  | poolClosed
  | connection (reason : String)
  | tls (reason : String)
  | query

namespace DatabaseFault

/-- The database is unavailable when no connection could be had; any other fault is internal. -/
def toError : DatabaseFault → Error
  | .poolTimedOut => .storeUnavailable "pool timed out while waiting for an open connection"
  | .poolClosed => .storeUnavailable "attempted to acquire a connection on a closed pool"
  | .connection reason => .storeUnavailable ("error communicating with database: " ++ reason)
  | .tls reason =>
    .storeUnavailable ("error occurred while attempting to establish a TLS connection: " ++ reason)
  | .query => .internal "database query failed"

end DatabaseFault

end Turnstile

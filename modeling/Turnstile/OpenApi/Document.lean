import Turnstile.Build
import Turnstile.Http.Route
import Turnstile.OpenApi.Schema

/-!
The interface description of the service. Paths, methods, path parameters and the need for a token
come from the routing table; the words come from here.
-/

namespace Turnstile.OpenApi

open Http
open Json (Value)

/-- What is said of an endpoint: a response without a shape has no body. -/
structure Wording where
  operation : String
  tag : String
  body : Option String
  responses : List (Status × String × Option Shape)
  deriving DecidableEq, Repr

def failure (s : Status) (text : String) : Status × String × Option Shape :=
  (s, text, some (.named "ErrorBody"))

def authWording : Call → Option Wording
  | .register => some ⟨"register", "auth", some "RegisterRequest",
      [(.created, "Account created", some (.named "RegisterResponse")),
        failure .badRequest "Invalid phone, email or password",
        failure .conflict "Phone or email already registered"]⟩
  | .login => some ⟨"login", "auth", some "LoginRequest",
      [(.ok, "Access and refresh token", some (.named "TokenPair")),
        failure .unauthorized "Invalid credentials",
        failure .tooManyRequests "Too many failed attempts, see Retry-After"]⟩
  | .refresh => some ⟨"refresh", "auth", some "RefreshRequest",
      [(.ok, "Rotated token pair", some (.named "TokenPair")),
        failure .forbidden "Unknown, expired or spent refresh token"]⟩
  | .logout => some ⟨"logout", "auth", some "RefreshRequest",
      [(.noContent, "Refresh token revoked", none), failure .forbidden "Unknown refresh token"]⟩
  | _ => none

def userWording : Call → Option Wording
  | .getUser => some ⟨"get_user", "users", none,
      [(.ok, "User detail", some (.named "UserDetail")),
        failure .badRequest "Invalid user id",
        failure .unauthorized "Missing or invalid access token",
        failure .notFound "User not found"]⟩
  | .editUser => some ⟨"edit_user", "users", some "UserUpdateRequest",
      [(.ok, "User updated", some (.named "UserDetail")),
        failure .badRequest "Invalid phone or password",
        failure .unauthorized "Missing or invalid access token",
        failure .notFound "User not found",
        failure .conflict "Phone already in use"]⟩
  | _ => none

def rightsWording : Call → Option Wording
  | .getUserRights => some ⟨"get_user_rights", "rights", none,
      [(.ok, "Rights held by the user", some (.named "RightsBody")),
        failure .notFound "User not found"]⟩
  | .grantRights => some ⟨"grant_rights", "rights", some "RightsBody",
      [(.ok, "Rights granted", some (.named "RightsBody")),
        failure .badRequest "Unknown section or permission, or nothing to grant",
        failure .notFound "User not found",
        failure .conflict "User already has rights"]⟩
  | .editRights => some ⟨"edit_rights", "rights", some "RightsBody",
      [(.ok, "Rights replaced", some (.named "RightsBody")),
        failure .badRequest "Unknown section or permission, or nothing to set",
        failure .notFound "User not found"]⟩
  | .revokeRights => some ⟨"revoke_rights", "rights", some "RightsBody",
      [(.ok, "Rights left after revocation", some (.named "RightsBody")),
        failure .badRequest "Unknown section or permission",
        failure .notFound "User or section not found"]⟩
  | .assignRole => some ⟨"assign_role", "rights", some "AssignRoleRequest",
      [(.ok, "Rights after applying the role", some (.named "RightsBody")),
        failure .badRequest "Invalid id",
        failure .notFound "User or role not found"]⟩
  | _ => none

def contextsWording : Call → Option Wording
  | .getContexts => some ⟨"get_contexts", "contexts", none,
      [(.ok, "Merchant associations", some (.named "ContextsResponse")),
        failure .badRequest "Invalid user id"]⟩
  | .addContext => some ⟨"add_context", "contexts", some "AddContextRequest",
      [(.created, "Context added", some (.named "ContextsResponse")),
        failure .badRequest "Missing or malformed merchant id",
        failure .notFound "User not found"]⟩
  | .editContext => some ⟨"edit_context", "contexts", some "EditContextRequest",
      [(.ok, "Global flag updated", some (.named "ContextsResponse")),
        failure .notFound "User not found"]⟩
  | .deleteContexts => some ⟨"delete_contexts", "contexts", none,
      [(.ok, "All associations removed", some (.named "DeletedContexts"))]⟩
  | .deleteContext => some ⟨"delete_context", "contexts", none,
      [(.noContent, "Association removed", none), failure .notFound "No such association"]⟩
  | _ => none

def rolesWording : Call → Option Wording
  | .listRoles => some ⟨"list_roles", "roles", none,
      [(.ok, "All roles", some (.listOf "RoleResponse")),
        failure .unauthorized "Missing or invalid access token"]⟩
  | .addRole => some ⟨"add_role", "roles", some "RoleRequest",
      [(.created, "Role created", some (.named "RoleResponse")),
        failure .badRequest "Unknown role name or invalid rights",
        failure .conflict "Role name already taken"]⟩
  | .editRole => some ⟨"edit_role", "roles", some "RoleRequest",
      [(.ok, "Role updated", some (.named "RoleResponse")),
        failure .badRequest "Unknown role name or invalid rights",
        failure .notFound "Role not found",
        failure .conflict "Role name already taken"]⟩
  | .deleteRole => some ⟨"delete_role", "roles", none,
      [(.noContent, "Role deleted", none), failure .notFound "Role not found"]⟩
  | .getRoleRights => some ⟨"get_role_rights", "roles", none,
      [(.ok, "Rights carried by the role", some (.named "RightsBody")),
        failure .notFound "Role not found"]⟩
  | _ => none

/-- The description itself is not described. -/
def wording? : Endpoint → Option Wording
  | .health => some ⟨"health", "health", none,
      [(.ok, "Database is healthy", some (.named "Health")),
        (.serviceUnavailable, "Database is unhealthy", some (.named "Health"))]⟩
  | .description => none
  | .call c =>
    (authWording c).or ((userWording c).or ((rightsWording c).or ((contextsWording c).or (rolesWording c))))

def jsonContent (schema : Value) : Value :=
  .record [("application/json", .record [("schema", schema)])]

def responseValue (text : String) (shape : Option Shape) : Value :=
  .record (("description", .text text) ::
    (shape.map fun s => ("content", jsonContent (s.value none))).toList)

/-- The slot that a resource calls `id` is a role's under `roles` and a user's anywhere else. -/
def slotTitle (r : Resource) (name : String) : String :=
  if name = "merchant_id" then "Merchant id"
  else if r.path.contains (.word "roles") then "Role id"
  else "User id"

def parameterValue (r : Resource) (name : String) : Value :=
  .record [("name", .text name), ("in", .text "path"), ("description", .text (slotTitle r name)),
    ("required", .flag true), ("schema", Shape.text.value none)]

def Segment.name? : Segment → Option String
  | .word _ => none
  | .slot name => some name

def parametersOf (r : Resource) : List (String × Value) :=
  match r.path.filterMap Segment.name? with
  | [] => []
  | names => [("parameters", .list (names.map (parameterValue r)))]

def requestBodyOf (w : Wording) : List (String × Value) :=
  (w.body.map fun schema => ("requestBody",
    Value.record [("content", jsonContent (reference schema)), ("required", .flag true)])).toList

def securityOf (r : Resource) : List (String × Value) :=
  if r.guarded then [("security", .list [.record [("bearer", .list [])]])] else []

def operationValue (r : Resource) (w : Wording) : Value :=
  .record ([("tags", .texts [w.tag]), ("operationId", .text w.operation)] ++ parametersOf r ++
    requestBodyOf w ++
    [("responses",
      .record (w.responses.map fun (s, text, shape) => (toString s.code, responseValue text shape)))] ++
    securityOf r)

def segmentText : Segment → String
  | .word w => "/" ++ w
  | .slot name => "/\x7b" ++ name ++ "\x7d"

def pathText (r : Resource) : String := String.join (r.path.map segmentText)

def methodKey (m : Method) : String := String.ofList (m.name.toList.map Char.toLower)

def operationsOf (r : Resource) : List (String × Value) :=
  r.methods.filterMap fun m => (wording? m.2).map fun w => (methodKey m.1, operationValue r w)

def paths : List (String × Value) :=
  (resources.filter fun r => operationsOf r ≠ []).map fun r => (pathText r, .record (operationsOf r))

def tags : List (String × String) := [
  ("health", "Liveness and database status"),
  ("auth", "Registration, login and token refresh"),
  ("users", "User profiles"),
  ("rights", "Per-user rights and role assignment"),
  ("contexts", "Merchant scoping"),
  ("roles", "Role templates")]

def info : Value :=
  .record [("title", .text Build.name), ("description", .text Build.description),
    ("contact", .record [("name", .text "Team Warden"), ("email", .text "team@warden.dev")]),
    ("license", .record [("name", .text "BSD-3-Clause"), ("identifier", .text "BSD-3-Clause")]),
    ("version", .text Build.version)]

def bearerScheme : Value :=
  .record [("type", .text "http"), ("scheme", .text "bearer"), ("bearerFormat", .text "JWT")]

def document : Value :=
  .record [("openapi", .text "3.1.0"), ("info", info), ("paths", .record paths),
    ("components", .record [("schemas", .record components),
      ("securitySchemes", .record [("bearer", bearerScheme)])]),
    ("tags", .list (tags.map fun t =>
      .record [("name", .text t.1), ("description", .text t.2)]))]

end Turnstile.OpenApi

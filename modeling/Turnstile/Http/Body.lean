import Turnstile.Http.Media
import Turnstile.Http.Route
import Turnstile.Json.Reader
import Turnstile.Operation
import Turnstile.Text.Percent

/-!
From a request to the operation it asks for. The slots of the path are decoded first, then the body is
read, and only then are identifiers looked at.
-/

namespace Turnstile.Http

/-- Why a request is turned away before anything in it is understood. -/
inductive Rejection where
  | pathEncoding (slot : String)
  | mediaType
  | tooLong
  | malformed
  | mismatch
  deriving DecidableEq, Repr

inductive Refusal where
  | rejected (r : Rejection)
  | failed (e : Error)
  deriving DecidableEq, Repr

structure Credentials where
  phone : String
  password : String

structure RoleAssignment where
  roleId : String
  merge : Bool

structure ContextRequest where
  merchantId : Option String
  isGlobal : Bool

/-- How a body is read: the shape of its JSON, and what it then stands for. -/
structure Schema (α : Type) where
  read : Json.Reader
  decode : Json.Value → Option α

namespace Schema

open Json (Value Field Reader)

def strict (fields : List Field) (decode : Value → Option α) : Schema α :=
  ⟨Json.record true fields, decode⟩

def text (name : String) : Field := ⟨name, .required, Json.text⟩

def optionalText (name : String) : Field := ⟨name, .nullable, Json.nullable Json.text⟩

def textOf (v : Value) (name : String) : Option String := (v.member? name).bind Value.text?

def flagOf (v : Value) (name : String) : Bool := ((v.member? name).bind Value.flag?).getD false

def registration : Schema Registration :=
  strict [text "phone", optionalText "email", text "password", optionalText "firstName",
      optionalText "lastName"] fun v => do
    return ⟨← textOf v "phone", textOf v "email", ← textOf v "password", textOf v "firstName",
      textOf v "lastName"⟩

def credentials : Schema Credentials :=
  strict [text "phone", text "password"] fun v => do
    return ⟨← textOf v "phone", ← textOf v "password"⟩

def refreshToken : Schema String := strict [text "refreshToken"] fun v => textOf v "refreshToken"

def rightsReader : Reader := Json.table (Json.list Json.text)

def rightsOf (v : Value) : Option Rights.Request :=
  match v with
  | .record ms => do
    let entries ← ms.mapM fun m => m.2.texts?.map (m.1, ·)
    return Std.ExtTreeMap.ofList entries
  | _ => none

def rights : Schema Rights.Request := ⟨rightsReader, rightsOf⟩

def assignment : Schema RoleAssignment :=
  strict [text "roleId", ⟨"merge", .defaulted, Json.flag⟩] fun v => do
    return ⟨← textOf v "roleId", flagOf v "merge"⟩

def context : Schema ContextRequest :=
  strict [optionalText "merchantId", ⟨"global", .defaulted, Json.flag⟩] fun v =>
    some ⟨textOf v "merchantId", flagOf v "global"⟩

def scope : Schema Bool := strict [⟨"global", .required, Json.flag⟩] fun v => some (flagOf v "global")

def role : Schema RoleRequest :=
  strict [text "name", text "localizedName", ⟨"notes", .defaulted, Json.text⟩,
      ⟨"rights", .defaulted, rightsReader⟩] fun v => do
    return ⟨← textOf v "name", ← textOf v "localizedName", (textOf v "notes").getD "",
      ((v.member? "rights").bind rightsOf).getD ∅⟩

end Schema

def bodyLimit : Nat := 2097152

/-- The JSON value of a given shape that the body begins with. -/
def readBody (s : Schema α) (r : Request) : Except Rejection α :=
  if !r.headers.sayJson then .error .mediaType
  else if bodyLimit < r.body.utf8ByteSize then .error .tooLong
  else match Json.readFront s.read (Json.wire (.ofText r.body)) with
    | .error .malformed => .error .malformed
    | .error .mismatch => .error .mismatch
    | .ok v => (s.decode v).elim (.error .mismatch) .ok

def body (s : Schema α) (r : Request) : Except Refusal α := (readBody s r).mapError .rejected

def decodeSlot (slot : String × String) : Except Rejection (String × String) :=
  match Percent.decode? slot.2 with
  | some s => .ok (slot.1, s)
  | none => .error (.pathEncoding slot.1)

def identifier (what s : String) : Except Refusal Uuid :=
  match Uuid.parse? (Text.trim s) with
  | some id => .ok id
  | none => .error (.failed (.validation s!"invalid {what} id"))

def slot (slots : List (String × String)) (name : String) : String :=
  ((slots.find? (·.1 = name)).map Prod.snd).getD ""

/-- The operation behind a call, with the slots of its path already decoded. -/
def Call.decode (slots : List (String × String)) (r : Request) : Call → Except Refusal Operation
  | .register => do return .register (← body .registration r)
  | .login => do
    let b ← body .credentials r
    return .login b.phone b.password
  | .refresh => do return .refresh (← body .refreshToken r)
  | .logout => do return .logout (← body .refreshToken r)
  | .getUser => do return .getUser (← identifier "user" (slot slots "id"))
  | .editUser => do
    let b ← body .credentials r
    return .editUser (← identifier "user" (slot slots "id")) b.phone b.password
  | .getUserRights => do return .getUserRights (← identifier "user" (slot slots "id"))
  | .grantRights => do
    let q ← body .rights r
    return .grant (← identifier "user" (slot slots "id")) q
  | .editRights => do
    let q ← body .rights r
    return .editRights (← identifier "user" (slot slots "id")) q
  | .revokeRights => do
    let q ← body .rights r
    return .revoke (← identifier "user" (slot slots "id")) q
  | .assignRole => do
    let b ← body .assignment r
    let user ← identifier "user" (slot slots "id")
    return .assign user (← identifier "role" b.roleId) b.merge
  | .getContexts => do return .getContexts (← identifier "user" (slot slots "id"))
  | .addContext => do
    let b ← body .context r
    return .addContext (← identifier "user" (slot slots "id")) b.merchantId b.isGlobal
  | .editContext => do
    let isGlobal ← body .scope r
    return .editContext (← identifier "user" (slot slots "id")) isGlobal
  | .deleteContexts => do return .deleteContexts (← identifier "user" (slot slots "id"))
  | .deleteContext => do
    return .deleteContext (← identifier "user" (slot slots "id")) (slot slots "merchant_id")
  | .listRoles => return .getRoles
  | .addRole => do return .addRole (← body .role r)
  | .editRole => do
    let q ← body .role r
    return .editRole (← identifier "role" (slot slots "id")) q
  | .deleteRole => do return .deleteRole (← identifier "role" (slot slots "id"))
  | .getRoleRights => do return .getRoleRights (← identifier "role" (slot slots "id"))

def Call.operation (captures : List (String × String)) (r : Request) (c : Call) :
    Except Refusal Operation := do
  let slots ← (captures.mapM decodeSlot).mapError Refusal.rejected
  c.decode slots r

end Turnstile.Http

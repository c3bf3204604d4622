import Turnstile.Calendar
import Turnstile.Http.Body

/-!
What an operation, a failure or a rejection looks like as a response. A failure inside the service
says nothing about its cause.
-/

namespace Turnstile

open Http
open Json (Value)

def ErrorKind.status : ErrorKind → Status
  | .validation => .badRequest
  | .unauthorized => .unauthorized
  | .locked => .tooManyRequests
  | .forbidden => .forbidden
  | .notFound => .notFound
  | .conflict => .conflict
  | .unavailable => .serviceUnavailable
  | .internal => .internalServerError

namespace Error

/-- What a caller is told. -/
def publicMessage (e : Error) : String :=
  match e.kind with
  | .internal => "internal server error"
  | .unavailable => "service unavailable"
  | _ => e.message

def retryAfter? : Error → Option Nat
  | .locked seconds => some seconds
  | _ => none

def value (e : Error) : Value :=
  .record [("error", .text e.kind.code), ("message", .text e.publicMessage)]

def response (e : Error) : Response :=
  let r := Response.of e.kind.status (.json e.value)
  match e.retryAfter? with
  | some seconds => r.withHeader "retry-after" (toString seconds)
  | none => r

end Error

def Profile.value (p : Profile) : Value :=
  .record [("id", .text p.id.hyphenated), ("phone", .text p.phone),
    ("email", .optional .text p.email), ("firstName", .optional .text p.firstName),
    ("lastName", .optional .text p.lastName), ("roles", .texts p.roles),
    ("entitlements", .texts p.entitlements), ("createdAt", .text p.createdAt.text),
    ("updatedAt", .text p.updatedAt.text)]

def Role.value (r : Role) : Value :=
  .record [("id", .text r.id.hyphenated), ("name", .text r.name.text),
    ("localizedName", .text r.localizedName), ("notes", .text r.notes),
    ("rights", r.rights.toRequest.toValue)]

def TokenPair.value (p : TokenPair) : Value :=
  .record [("accessToken", .text p.access), ("refreshToken", .text p.refresh)]

/-- The merchants of a user as a list, and once more joined by commas. -/
def UserContexts.value (c : UserContexts) : Value :=
  .record [("userId", .text c.userId.hyphenated), ("merchantIds", .texts c.merchantIds),
    ("merchants", .text c.joined), ("global", .flag c.isGlobal)]

def Reply.content : Reply → Content
  | .done => .empty
  | .registered id => .json (.record [("id", .text id.hyphenated)])
  | .tokens pair => .json pair.value
  | .profile p => .json p.value
  | .rights r => .json r.toRequest.toValue
  | .role r => .json r.value
  | .roles rs => .json (.list (rs.map Role.value))
  | .contexts c => .json c.value
  | .removed count => .json (.record [("removed", .integer count)])

namespace Http

namespace Rejection

def status : Rejection → Status
  | .pathEncoding _ | .malformed => .badRequest
  | .mediaType => .unsupportedMediaType
  | .tooLong => .contentTooLarge
  | .mismatch => .unprocessable

def message : Rejection → String
  | .pathEncoding slot => "Invalid URL: Invalid UTF-8 in \x60" ++ slot ++ "\x60"
  | .mediaType => "Expected request with \x60Content-Type: application/json\x60"
  | .tooLong => "Failed to buffer the request body: length limit exceeded"
  | .malformed => "Failed to parse the request body as JSON"
  | .mismatch => "Failed to deserialize the JSON body into the target type"

def response (r : Rejection) : Response := .of r.status (.plain r.message)

end Rejection

def Refusal.response : Refusal → Response
  | .rejected r => r.response
  | .failed e => e.response

/-- The status of a call that succeeds. -/
def Call.status : Call → Status
  | .register | .addContext | .addRole => .created
  | .logout | .deleteContext | .deleteRole => .noContent
  | _ => .ok

end Http

end Turnstile

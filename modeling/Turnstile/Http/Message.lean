import Turnstile.Json.Value

/-!
Requests and responses. The body of a request is text, and the body of a response is nothing, a JSON
value or plain text.
-/

namespace Turnstile.Http

inductive Method where
  | get | head | post | put | delete
  /-- Any method that no resource supports. -/
  | other
  deriving DecidableEq, Repr

namespace Method

def name : Method → String
  | .get => "GET"
  | .head => "HEAD"
  | .post => "POST"
  | .put => "PUT"
  | .delete => "DELETE"
  | .other => ""

def known : List Method := [.get, .head, .post, .put, .delete]

def parse (s : String) : Method := (known.find? (·.name = s)).getD .other

@[simp] theorem parse_name (m : Method) : parse m.name = m := by cases m <;> rfl

end Method

inductive Status where
  | ok | created | noContent
  | badRequest | unauthorized | forbidden | notFound | methodNotAllowed | conflict
  | contentTooLarge | unsupportedMediaType | unprocessable | tooManyRequests
  | internalServerError | serviceUnavailable
  deriving DecidableEq, Repr

def Status.code : Status → Nat
  | .ok => 200
  | .created => 201
  | .noContent => 204
  | .badRequest => 400
  | .unauthorized => 401
  | .forbidden => 403
  | .notFound => 404
  | .methodNotAllowed => 405
  | .conflict => 409
  | .contentTooLarge => 413
  | .unsupportedMediaType => 415
  | .unprocessable => 422
  | .tooManyRequests => 429
  | .internalServerError => 500
  | .serviceUnavailable => 503

/-- Header lines in order. A name is compared without regard to case. -/
abbrev Headers := List (String × String)

namespace Headers

def sameName (a b : String) : Bool := a.toList.map Char.toLower = b.toList.map Char.toLower

/-- The value of the first line with a name. -/
def first? (h : Headers) (name : String) : Option String :=
  (h.find? fun line => sameName line.1 name).map Prod.snd

def isVisible (c : Char) : Bool := c = '\t' || (decide (32 ≤ c.toNat) && decide (c.toNat < 127))

/-- The first value of a name, if it is visible ASCII throughout. -/
def visible? (h : Headers) (name : String) : Option String :=
  (h.first? name).filter fun v => v.toList.all isVisible

end Headers

structure Request where
  method : Method
  target : String
  headers : Headers
  body : String

inductive Content where
  | empty
  | json (v : Json.Value)
  | plain (s : String)

def Content.mediaType? : Content → Option String
  | .empty => none
  | .json _ => some "application/json"
  | .plain _ => some "text/plain; charset=utf-8"

structure Response where
  status : Status
  headers : Headers
  content : Content

namespace Response

/-- A response that says what its content is. -/
def of (status : Status) (content : Content) : Response :=
  ⟨status, (content.mediaType?.map ("content-type", ·)).toList, content⟩

def withHeader (r : Response) (name value : String) : Response :=
  { r with headers := r.headers ++ [(name, value)] }

/-- The same head without the body. -/
def withoutContent (r : Response) : Response := { r with content := .empty }

end Response

end Turnstile.Http

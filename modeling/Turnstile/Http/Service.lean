import Turnstile.Http.Bearer
import Turnstile.Http.Reply
import Turnstile.OpenApi.Document

/-!
One request after another against one database. A request is first placed: the route is found and, on
a guarded resource, the caller is authenticated before the method, the slots and the body matter. Only
a placed call is decoded and performed.
-/

namespace Turnstile.Http

/-- When a request comes in, and the identifier it gets if it carries none. -/
structure Arrival where
  circumstances : Circumstances
  requestId : String

/-- Where a request ends up before it is decoded. -/
inductive Placement where
  | nowhere
  /-- The caller was turned away; the methods are told if the one asked for is not among them. -/
  | unauthenticated (e : Error) (allow : Option String)
  | unsupported (allow : String)
  | health
  | description
  | call (caller : Option Principal) (c : Call) (captures : List (String × String))
  deriving DecidableEq, Repr

/-- The caller of a request: nobody in particular on an open resource. -/
def caller (c : Settings) (now : Instant) (guarded : Bool) (h : Headers) :
    Except Error (Option Principal) :=
  if guarded then some <$> authenticate c.secret now h else .ok none

def place (c : Settings) (now : Instant) (r : Request) : Placement :=
  match route? r.target with
  | none => .nowhere
  | some m =>
    let endpoint := m.resource.endpoint? r.method
    match caller c now m.resource.guarded r.headers with
    | .error e => .unauthenticated e (if endpoint.isSome then none else some m.resource.allow)
    | .ok who =>
      match endpoint with
      | none => .unsupported m.resource.allow
      | some .health => .health
      | some .description => .description
      | some (.call call) => .call who call m.captures

/-- The part of a commit that fits a header line; a short one is left out. -/
def shortCommit (commit : String) : String :=
  if 7 < commit.length then (commit.take 7).copy else ""

def healthResponse (healthy : Bool) : Response :=
  let body := Json.Value.record [("commit", .text Build.commit), ("name", .text Build.name),
    ("version", .text Build.version), ("database", .text (if healthy then "ok" else "error"))]
  (Response.of (if healthy then .ok else .serviceUnavailable) (.json body)).withHeader "x-app"
    (Build.name ++ ":" ++ Build.version ++ ":" ++ shortCommit Build.commit)

def ping : Action Unit := Action.query fun _ => ()

def answerCall (c : Settings) (now : Circumstances) (call : Call)
    (captures : List (String × String)) (r : Request) (db : Database) : Response × Database :=
  match call.operation captures r with
  | .error refusal => (refusal.response, db)
  | .ok operation =>
    let (result, db) := Event.answer c ⟨now, operation⟩ db
    match result with
    | .ok reply => (.of call.status reply.content, db)
    | .error e => (e.response, db)

def answerPlaced (c : Settings) (now : Circumstances) (p : Placement) (r : Request)
    (db : Database) : Response × Database :=
  match p with
  | .nowhere => (.of .notFound .empty, db)
  | .unauthenticated e none => (e.response, db)
  | .unauthenticated e (some allow) => (e.response.withHeader "allow" allow, db)
  | .unsupported allow => ((Response.of .methodNotAllowed .empty).withHeader "allow" allow, db)
  | .health => (healthResponse (ping.perform db).1.toBool, db)
  | .description => (.of .ok (.json OpenApi.document), db)
  | .call _ call captures => answerCall c now call captures r db

/-- Every response carries the identifier of its request, and none to a head request has a body. -/
def Response.finish (arrival : Arrival) (r : Request) (response : Response) : Response :=
  let response := if r.method = .head then response.withoutContent else response
  response.withHeader "x-request-id" ((r.headers.first? "x-request-id").getD arrival.requestId)

def handle (c : Settings) (arrival : Arrival) (r : Request) (db : Database) :
    Response × Database :=
  let placement := place c arrival.circumstances.clocks.wall r
  let (response, db) := answerPlaced c arrival.circumstances placement r db
  (response.finish arrival r, db)

end Turnstile.Http

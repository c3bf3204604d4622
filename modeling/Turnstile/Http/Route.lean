import Turnstile.Http.Message

/-!
The resources and the methods they support. A path is matched segment by segment, case and slashes
included, before anything in it is decoded. A slot takes any segment, except that the last segment of a
path has to be something.
-/

namespace Turnstile.Http

/-- The requests that come down to an operation of the service. -/
inductive Call where
  | register | login | refresh | logout
  | getUser | editUser
  | getUserRights | grantRights | editRights | revokeRights | assignRole
  | getContexts | addContext | editContext | deleteContexts | deleteContext
  | listRoles | addRole | editRole | deleteRole | getRoleRights
  deriving DecidableEq, Repr

inductive Endpoint where
  | health
  | description
  | call (c : Call)
  deriving DecidableEq, Repr

inductive Segment where
  | word (text : String)
  | slot (name : String)
  deriving DecidableEq, Repr

structure Resource where
  path : List Segment
  /-- Whether a caller has to be authenticated. -/
  guarded : Bool
  methods : List (Method × Endpoint)
  deriving DecidableEq, Repr

def authPath (action : String) : List Segment := [.word "v1", .word "auth", .word action]

def userPath (rest : List Segment) : List Segment :=
  [.word "v1", .word "users", .slot "id"] ++ rest

def rolePath (rest : List Segment) : List Segment := [.word "v1", .word "roles"] ++ rest

def openResources : List Resource := [
  ⟨[.word "health"], false, [(.get, .health)]⟩,
  ⟨[.word "openapi.json"], false, [(.get, .description)]⟩,
  ⟨authPath "register", false, [(.post, .call .register)]⟩,
  ⟨authPath "login", false, [(.post, .call .login)]⟩,
  ⟨authPath "refresh", false, [(.post, .call .refresh)]⟩,
  ⟨authPath "logout", false, [(.post, .call .logout)]⟩]

def guardedResources : List Resource := [
  ⟨userPath [], true, [(.get, .call .getUser), (.put, .call .editUser)]⟩,
  ⟨userPath [.word "rights"], true,
    [(.get, .call .getUserRights), (.post, .call .grantRights), (.put, .call .editRights)]⟩,
  ⟨userPath [.word "rights", .word "revoke"], true, [(.post, .call .revokeRights)]⟩,
  ⟨userPath [.word "role"], true, [(.post, .call .assignRole)]⟩,
  ⟨userPath [.word "contexts"], true,
    [(.get, .call .getContexts), (.post, .call .addContext), (.put, .call .editContext),
      (.delete, .call .deleteContexts)]⟩,
  ⟨userPath [.word "contexts", .slot "merchant_id"], true, [(.delete, .call .deleteContext)]⟩,
  ⟨rolePath [], true, [(.get, .call .listRoles), (.post, .call .addRole)]⟩,
  ⟨rolePath [.slot "id"], true, [(.put, .call .editRole), (.delete, .call .deleteRole)]⟩,
  ⟨rolePath [.slot "id", .word "rights"], true, [(.get, .call .getRoleRights)]⟩]

def resources : List Resource := openResources ++ guardedResources

namespace Resource

/-- The endpoint of a method. A head request goes where a get request goes. -/
def endpoint? (r : Resource) (m : Method) : Option Endpoint :=
  (r.methods.find? fun e => e.1 = m || (m = .head && e.1 = .get)).map Prod.snd

/-- The supported methods as a header value. -/
def allow (r : Resource) : String :=
  ",".intercalate (r.methods.map fun e => if e.1 = .get then "GET,HEAD" else e.1.name)

end Resource

/-- What a path puts into the slots of a pattern, by the names of the slots. -/
def capture? : List Segment → List String → Option (List (String × String))
  | [], [] => some []
  | [.slot name], [s] => if s = "" then none else some [(name, s)]
  | .slot name :: ps, s :: ss => (capture? ps ss).map ((name, s) :: ·)
  | .word w :: ps, s :: ss => if s = w then capture? ps ss else none
  | _, _ => none

/-- The part of a request target before its query and fragment. -/
def targetPath (target : List Char) : List Char := target.takeWhile fun c => c ≠ '?' && c ≠ '#'

/-- The segments of a path, which starts with a slash. -/
def segments? (target : String) : Option (List String) :=
  match targetPath target.toList with
  | '/' :: rest => some ((rest.splitOn '/').map String.ofList)
  | _ => none

structure Match where
  resource : Resource
  captures : List (String × String)

def route? (target : String) : Option Match := do
  let segments ← segments? target
  resources.findSome? fun r => (capture? r.path segments).map (⟨r, ·⟩)

end Turnstile.Http

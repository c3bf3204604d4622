import Turnstile.Cli.Parse
import Turnstile.Url.Basic

/-!
The message that the server logs when it starts: its arguments without the secrets among them.
-/

namespace Turnstile.Cli

/-- A connection string with a mark in place of its password. A URL that takes no mark is written as it
is. -/
def redactDsn (lib : UrlLibrary) (dsn : String) : String :=
  match lib.parse? dsn with
  | some u =>
    if (lib.password? u).isSome then lib.text ((lib.setPassword? u "REDACTED").getD u)
    else lib.text u
  | none => "invalid-dsn"

def shortCommit (commit : String) : String := String.ofList (commit.toList.take 7)

def ServerArguments.entries (lib : UrlLibrary) (a : ServerArguments) : List (String × String) := [
  ("listen", s!"tcp:{a.port}"),
  ("dsn", redactDsn lib a.dsn),
  ("jwt_secret_set", if a.secret = "" then "false" else "true"),
  ("access_token_ttl", s!"{a.accessMinutes}m"),
  ("refresh_grant_ttl", s!"{a.grantMinutes}m"),
  ("refresh_token_ttl", s!"{a.refreshMinutes}m"),
  ("request_timeout", s!"{a.requestSeconds}s"),
  ("db_max_connections", toString a.maxConnections)]

/-- A name, a colon, and a value in a column of its own. -/
def entryLine (width : Nat) (e : String × String) : String :=
  "  " ++ e.1 ++ ":" ++ String.ofList (List.replicate (width - e.1.length) ' ') ++ " " ++ e.2

def ServerArguments.startupLinesWith (lib : UrlLibrary) (a : ServerArguments) : List String :=
  let width := ((a.entries lib).map fun e => e.1.length).foldl max 0
  [Build.name ++ " " ++ Build.version ++ " - " ++ shortCommit Build.commit, "",
    "Startup configuration:"] ++ (a.entries lib).map (entryLine width)

def ServerArguments.startupLines (a : ServerArguments) : List String :=
  a.startupLinesWith Url.library

end Turnstile.Cli

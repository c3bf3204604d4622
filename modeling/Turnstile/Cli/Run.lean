import Turnstile.Cli.Log
import Turnstile.Cli.Startup
import Turnstile.Telemetry.Setup

/-!
A run of the server command up to the point where it needs its database, which it cannot reach.
-/

namespace Turnstile.Cli

structure Outcome where
  code : Nat
  output : List String
  complaint : List String
  deriving DecidableEq, Repr

/-- Where the startup message comes from, as far as log directives are concerned. -/
def startupTarget : String := "warden::cli::actions::server"

def startupOutput (env : Environment) (a : ServerArguments) : List String :=
  if logs env a.verbosity startupTarget .info then a.startupLines else []

def run (env : Environment) (args : List String) : Outcome :=
  match parse env args with
  | .error f => ⟨f.code, f.output, f.complaint⟩
  | .ok a =>
    match Telemetry.check env with
    | .error message => ⟨1, [], ["Error: " ++ message]⟩
    | .ok () => ⟨1, startupOutput env a, ["Error: Failed to connect to database"]⟩

/-- The variables that a run looks at. -/
def consulted : List String :=
  Argument.configuring.filterMap (fun a => a.form.env) ++
    ["RUST_LOG", "OTEL_EXPORTER_OTLP_ENDPOINT", "OTEL_EXPORTER_OTLP_TRACES_ENDPOINT",
      "OTEL_EXPORTER_OTLP_HEADERS", "OTEL_EXPORTER_OTLP_COMPRESSION",
      "OTEL_EXPORTER_OTLP_TRACES_COMPRESSION"]

end Turnstile.Cli

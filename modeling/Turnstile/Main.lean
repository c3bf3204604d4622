import Turnstile.Cli.Run

/-!
The server command. Its exit code and everything it prints are those of `Turnstile.Cli.run`.
-/

namespace Turnstile

def readEnvironment : IO Environment := do
  Cli.consulted.filterMapM fun name => do return (← IO.getEnv name).map (name, ·)

end Turnstile

def main (args : List String) : IO UInt32 := do
  let outcome := Turnstile.Cli.run (← Turnstile.readEnvironment) args
  outcome.output.forM fun line => IO.println line
  outcome.complaint.forM fun line => IO.eprintln line
  return outcome.code.toUInt32

import Turnstile.Build
import Turnstile.Cli.Argument
import Turnstile.Environment

/-!
Reading a command line. An argument given there wins over its variable, and the variable over the
default. A value is checked when the next argument starts, so the first problem from left to right is
the one that is told.
-/

namespace Turnstile.Cli

inductive Failure where
  | missing (arguments : List Argument)
  | invalid (a : Argument) (value reason : String)
  | unknown (text : String)
  | noValue (a : Argument)
  | extraValue (a : Argument) (value : String)
  | repeated (a : Argument)
  | helpWanted
  | versionWanted (long : Bool)
  deriving DecidableEq, Repr

structure State where
  values : List (Argument × String)
  /-- An option whose value is still to come or still to be checked. -/
  pending : Option (Argument × Option String)
  /-- Whether a double dash has ended the options. -/
  ended : Bool
  deriving DecidableEq, Repr

namespace State

def start : State := ⟨[], none, false⟩

def value? (s : State) (a : Argument) : Option String := (s.values.find? (·.1 = a)).map Prod.snd

def put (s : State) (a : Argument) (value : String) : Except Failure State :=
  match a.read value with
  | .ok _ => .ok { s with values := (a, value) :: s.values.filter (·.1 ≠ a) }
  | .error reason => .error (.invalid a value reason)

/-- A value from the command line, where no option may come twice. -/
def assign (s : State) (a : Argument) (value : String) : Except Failure State :=
  if (s.value? a).isSome then .error (.repeated a) else s.put a value

def settle (s : State) : Except Failure State :=
  match s.pending with
  | none => .ok s
  | some (a, none) => .error (.noValue a)
  | some (a, some value) => assign { s with pending := none } a value

/-- An argument without a value. Each `verbose` counts one more. -/
def flag (s : State) (a : Argument) (long : Bool) : Except Failure State := do
  let s ← s.settle
  match a with
  | .help => throw .helpWanted
  | .version => throw (.versionWanted long)
  | a => s.put a (toString (((s.value? a).bind String.toNat?).getD 0 + 1))

def option (s : State) (a : Argument) (attached : Option String) : Except Failure State := do
  let s ← s.settle
  match attached with
  | some value => s.assign a value
  | none => return { s with pending := some (a, none) }

/-- The letters after a single dash. The rest after an option's letter is its value. -/
def shorts : List Char → State → Except Failure State
  | [], s => .ok s
  | c :: rest, s =>
    match Argument.ofShort? c with
    | none => .error (.unknown ("-" ++ c.toString))
    | some a =>
      if a.takesValue then
        match rest with
        | [] => s.option a none
        | '=' :: value => s.option a (some (String.ofList value))
        | value => s.option a (some (String.ofList value))
      else do shorts rest (← s.flag a false)

/-- The text after a double dash, a value following its first equals sign. -/
def long (text : List Char) (s : State) : Except Failure State :=
  let name := text.takeWhile (· ≠ '=')
  let attached := if name.length < text.length then
      some (String.ofList (text.drop (name.length + 1)))
    else none
  match Argument.ofLong? (String.ofList name) with
  | none => .error (.unknown (String.ofList ('-' :: '-' :: name)))
  | some a =>
    if a.takesValue then s.option a attached
    else match attached with
      | some value => .error (.extraValue a value)
      | none => s.flag a true

def step (s : State) (arg : String) : Except Failure State :=
  if s.ended then .error (.unknown arg)
  else match arg.toList with
    | ['-', '-'] => .ok { s with ended := true }
    | '-' :: '-' :: text => s.long text
    | '-' :: c :: rest => s.shorts (c :: rest)
    | _ =>
      match s.pending with
      | some (a, none) => .ok { s with pending := some (a, some arg) }
      | _ => .error (.unknown arg)

/-- Arguments that were not given take the values of their variables. -/
def adopt (env : Environment) (s : State) (a : Argument) : Except Failure State :=
  match s.value? a, a.form.env.bind env.get? with
  | none, some value => s.put a value
  | _, _ => .ok s

def missing (s : State) : List Argument :=
  Argument.configuring.filter fun a => a.isRequired && (s.value? a).isNone

end State

/-- Everything the server is started with. -/
structure ServerArguments where
  port : Int
  dsn : String
  secret : String
  accessMinutes : Int
  grantMinutes : Int
  refreshMinutes : Int
  requestSeconds : Int
  maxConnections : Int
  verbosity : Int
  deriving DecidableEq, Repr

/-- What the server issues tokens with. -/
def ServerArguments.settings (a : ServerArguments) : Settings :=
  ⟨a.secret, a.accessMinutes, a.grantMinutes, a.refreshMinutes⟩

namespace State

def text (s : State) (a : Argument) : String := ((s.value? a).or a.form.default).getD ""

def number (s : State) (a : Argument) : Int := ((s.value? a).or a.form.default).elim 0 fun v =>
  (a.read v).toOption.getD 0

def arguments (s : State) : ServerArguments where
  port := s.number .port
  dsn := s.text .dsn
  secret := s.text .secret
  accessMinutes := s.number .accessMinutes
  grantMinutes := s.number .grantMinutes
  refreshMinutes := s.number .refreshMinutes
  requestSeconds := s.number .requestSeconds
  maxConnections := s.number .maxConnections
  verbosity := s.number .verbosity

end State

def parse (env : Environment) (args : List String) : Except Failure ServerArguments := do
  let s ← (← args.foldlM State.step State.start).settle
  let s ← Argument.configuring.foldlM (State.adopt env) s
  if s.missing ≠ [] then throw (.missing s.missing) else return s.arguments

namespace Failure

def helpLine (a : Argument) : String :=
  "  " ++ (match a.form.short with
    | some c => "-" ++ c.toString ++ ", "
    | none => "    ") ++ a.shown ++ "  " ++ a.form.help

def helpLines : List String :=
  [Build.description, "", s!"Usage: {Build.name} [OPTIONS] --dsn <dsn> --jwt-secret <jwt-secret>", "",
    "Options:"] ++ Argument.all.map helpLine

def versionLine (long : Bool) : String :=
  Build.name ++ " " ++ Build.version ++ (if long then " - " ++ Build.commit else "")

/-- What is printed on standard output. -/
def output : Failure → List String
  | .helpWanted => helpLines
  | .versionWanted long => [versionLine long]
  | _ => []

/-- What is printed on standard error. -/
def complaint : Failure → List String
  | .missing arguments =>
    "error: the following required arguments were not provided:" ::
      arguments.map fun a => "  " ++ a.shown
  | .invalid a value reason => [s!"error: invalid value '{value}' for '{a.shown}': {reason}"]
  | .unknown text => [s!"error: unexpected argument '{text}' found"]
  | .noValue a => [s!"error: a value is required for '{a.shown}' but none was supplied"]
  | .extraValue a value =>
    [s!"error: unexpected value '{value}' for '{a.shown}' found; no more were expected"]
  | .repeated a => [s!"error: the argument '{a.shown}' cannot be used multiple times"]
  | .helpWanted | .versionWanted _ => []

def code : Failure → Nat
  | .helpWanted | .versionWanted _ => 0
  | _ => 2

end Failure

end Turnstile.Cli

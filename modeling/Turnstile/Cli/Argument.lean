import Turnstile.Settings
import Turnstile.Text.Lowercase

/-!
The arguments of the server command: their spellings, the variables and defaults that stand in for
them, and what values they take.
-/

namespace Turnstile.Cli

inductive Argument where
  | port | dsn | requestSeconds | maxConnections
  | secret | accessMinutes | grantMinutes | refreshMinutes
  | verbosity
  | help | version
  deriving DecidableEq, Repr

/-- How an argument is written and described. -/
structure Form where
  id : String
  short : Option Char
  long : String
  help : String
  env : Option String
  default : Option String
  deriving DecidableEq, Repr

namespace Argument

/-- The arguments that configure the server, in the order in which they are settled. -/
def configuring : List Argument :=
  [.port, .dsn, .requestSeconds, .maxConnections, .secret, .accessMinutes, .grantMinutes,
    .refreshMinutes, .verbosity]

def all : List Argument := configuring ++ [.help, .version]

theorem mem_all (a : Argument) : a ∈ all := by cases a <;> decide

def form : Argument → Form
  | .port => ⟨"port", some 'p', "port", "Port to listen on", some "WARDEN_PORT", some "8080"⟩
  | .dsn => ⟨"dsn", some 'd', "dsn", "Database connection string", some "WARDEN_DSN", none⟩
  | .requestSeconds => ⟨"request-timeout-seconds", none, "request-timeout-seconds",
      "Deadline for a single HTTP request", some "WARDEN_REQUEST_TIMEOUT_SECONDS", some "10"⟩
  | .maxConnections => ⟨"db-max-connections", none, "db-max-connections",
      "Maximum connections in the database pool", some "WARDEN_DB_MAX_CONNECTIONS", some "5"⟩
  | .secret => ⟨"jwt-secret", none, "jwt-secret", "HMAC secret used to sign access tokens",
      some "WARDEN_JWT_SECRET", none⟩
  | .accessMinutes => ⟨"access-token-ttl-minutes", none, "access-token-ttl-minutes",
      "Lifetime of access tokens issued at login", some "WARDEN_ACCESS_TOKEN_TTL_MINUTES", some "60"⟩
  | .grantMinutes => ⟨"refresh-grant-ttl-minutes", none, "refresh-grant-ttl-minutes",
      "Lifetime of access tokens issued by a refresh", some "WARDEN_REFRESH_GRANT_TTL_MINUTES",
      some "15"⟩
  | .refreshMinutes => ⟨"refresh-token-ttl-minutes", none, "refresh-token-ttl-minutes",
      "Lifetime of refresh tokens", some "WARDEN_REFRESH_TOKEN_TTL_MINUTES", some "10080"⟩
  | .verbosity => ⟨"verbosity", some 'v', "verbose",
      "Verbosity level: ERROR, WARN, INFO, DEBUG, TRACE (default: ERROR)",
      some "WARDEN_LOG_LEVEL", none⟩
  | .help => ⟨"help", some 'h', "help", "Print help", none, none⟩
  | .version => ⟨"version", some 'V', "version", "Print version", none, none⟩

def takesValue : Argument → Bool
  | .verbosity | .help | .version => false
  | _ => true

def isRequired (a : Argument) : Bool := decide (a = .dsn ∨ a = .secret)

/-- Whether the argument would hold for subcommands as well. -/
def isGlobal (a : Argument) : Bool := decide (a = .verbosity)

/-- Whether help leaves out what the variable is set to. -/
def hidesEnv (a : Argument) : Bool := decide (a = .secret)

def ofShort? (c : Char) : Option Argument := all.find? (·.form.short = some c)

def ofLong? (name : String) : Option Argument := all.find? (·.form.long = name)

/-- The argument as messages name it. -/
def shown (a : Argument) : String :=
  "--" ++ a.form.long ++
    (if a.takesValue then " <" ++ a.form.id ++ ">" else if a = .verbosity then "..." else "")

end Argument

/-- The integers that an argument accepts, within those of 64 bits with or without a sign. -/
structure Range where
  signed : Bool
  least : Int
  most : Int
  text : String
  deriving DecidableEq, Repr

def Argument.range? : Argument → Option Range
  | .port => some ⟨true, 0, 65535, "0..=65535"⟩
  | .requestSeconds => some ⟨false, 1, 18446744073709551615, "1..18446744073709551615"⟩
  | .maxConnections => some ⟨true, 1, 4294967295, "1..=4294967295"⟩
  | .accessMinutes | .grantMinutes | .refreshMinutes =>
    some ⟨true, 1, Settings.maxMinutes, s!"1..={Settings.maxMinutes}"⟩
  | _ => none

/-- An optional sign and decimal digits; a minus sign is a digit out of place where none is allowed. -/
def integer? (signed : Bool) (s : String) : Option Int :=
  let (negative, digits) := match s.toList with
    | '+' :: rest => (false, rest)
    | '-' :: rest => if signed then (true, rest) else (false, '-' :: rest)
    | rest => (false, rest)
  if digits ≠ [] ∧ digits.all Char.isDigit then
    let n : Nat := digits.foldl (fun n c => 10 * n + (c.toNat - 48)) 0
    some (if negative then -(n : Int) else n)
  else none

/-- The integer of a text within a range, or what is wrong with it. -/
def Range.read (r : Range) (s : String) : Except String Int :=
  if s = "" then .error "cannot parse integer from empty string"
  else match integer? r.signed s with
    | none => .error "invalid digit found in string"
    | some n =>
      if (if r.signed then 9223372036854775807 else 18446744073709551615) < n then
        .error "number too large to fit in target type"
      else if n < -9223372036854775808 then .error "number too small to fit in target type"
      else if r.least ≤ n ∧ n ≤ r.most then .ok n
      else .error s!"{n} is not in {r.text}"

def levelNames : List (String × Nat) :=
  [("error", 0), ("warn", 1), ("info", 2), ("debug", 3), ("trace", 4)]

/-- A verbosity from 0 to 5, or the name of a level. -/
def readVerbosity (s : String) : Except String Int :=
  match (integer? false s).filter (· ≤ 5) with
  | some n => .ok n
  | none =>
    match levelNames.find? (·.1 = Text.lowercase s) with
    | some level => .ok level.2
    | none => .error "invalid log level"

/-- What a value of an argument comes to as a number; texts count as zero. -/
def Argument.read (a : Argument) (s : String) : Except String Int :=
  match a.range? with
  | some r => r.read s
  | none => if a = .verbosity then readVerbosity s else .ok 0

end Turnstile.Cli

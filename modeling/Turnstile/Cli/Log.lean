import Turnstile.Environment
import Turnstile.Text.Blank

/-!
Which messages are logged. Without any directive in the environment the verbosity decides; with some,
the one with the longest matching target does.
-/

namespace Turnstile.Cli

inductive Level where
  | off | error | warn | info | debug | trace
  deriving DecidableEq, Repr

namespace Level

def rank : Level → Nat
  | .off => 0
  | .error => 1
  | .warn => 2
  | .info => 3
  | .debug => 4
  | .trace => 5

def name : Level → String
  | .off => "off"
  | .error => "error"
  | .warn => "warn"
  | .info => "info"
  | .debug => "debug"
  | .trace => "trace"

def all : List Level := [.off, .error, .warn, .info, .debug, .trace]

/-- A level by its name or its number. -/
def parse? (s : String) : Option Level :=
  let lower := String.ofList (s.toList.map Char.toLower)
  all.find? fun l => l.name = lower ∨ toString l.rank = lower

def ofVerbosity (n : Int) : Level :=
  if n ≤ 0 then .error
  else if n = 1 then .warn
  else if n = 2 then .info
  else if n = 3 then .debug
  else .trace

end Level

/-- A level for the messages of a target and of what lies below it. -/
structure Directive where
  target : String
  level : Level
  deriving DecidableEq, Repr

def isTarget (s : String) : Bool :=
  s ≠ "" && s.toList.all fun c => c.isAlphanum || c = '_' || c = ':' || c = '-'

/-- A level alone is for every target, and a target alone for every level. -/
def Directive.parse? (s : String) : Option Directive :=
  match (Text.trim s).splitOn "=" with
  | [one] =>
    match Level.parse? one with
    | some l => some ⟨"", l⟩
    | none => if isTarget one then some ⟨one, .trace⟩ else none
  | [target, level] =>
    if isTarget target then
      if level = "" then some ⟨target, .trace⟩ else (Level.parse? level).map (⟨target, ·⟩)
    else none
  | _ => none

/-- Of two directives that match, the one with the longer target, and of equals the later one. -/
def closer (best : Option Directive) (d : Directive) : Option Directive :=
  match best with
  | none => some d
  | some b => if b.target.length ≤ d.target.length then some d else some b

def levelFor (directives : List Directive) (target : String) : Level :=
  match (directives.filter fun d => target.startsWith d.target).foldl closer none with
  | some d => d.level
  | none => .off

def directives (env : Environment) (verbosity : Int) : List Directive :=
  match (((env.get? "RUST_LOG").getD "").splitOn ",").filterMap Directive.parse? with
  | [] => [⟨"", Level.ofVerbosity verbosity⟩]
  | ds => ds

/-- Whether messages of a level from a target are written. -/
def logs (env : Environment) (verbosity : Int) (target : String) (l : Level) : Bool :=
  decide (l.rank ≤ (levelFor (directives env verbosity) target).rank)

end Turnstile.Cli

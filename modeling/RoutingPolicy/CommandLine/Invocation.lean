import RoutingPolicy.CommandLine.Arguments

/-!
# Invocations

An invocation is what arguments and environment ask for, with the standard values where they say
nothing.
-/

set_option autoImplicit false

namespace RoutingPolicy

inductive Command where
  | emit
  | check
  /-- They are tried on the job whose ad is in the file `job`. -/
  | simulate (job : String) (maxCycles : Nat)
  deriving DecidableEq

structure Invocation where
  policy : Option String
  format : RuleFormat
  fetchTimeoutSecs : Nat
  options : CompileOptions
  logLevel : String
  logFormat : LogFormat
  command : Command

namespace Invocation

def defaultMaxCycles : Nat := 64

def defaultFetchTimeoutSecs : Nat := 30

def defaultLogLevel : String := "info"

def ofSettings (settings : Settings) (command : Command) : Invocation where
  policy := settings.policy
  format := settings.format.getD .ads
  fetchTimeoutSecs := settings.fetchTimeoutSecs.getD defaultFetchTimeoutSecs
  options := settings.compileOptions
  logLevel := settings.logLevel.getD defaultLogLevel
  logFormat := settings.logFormat.getD .compact
  command := command

def commandOf (settings : Settings) : Subcommand → Except UsageError Command
  | .emit => .ok .emit
  | .check => .ok .check
  | .simulate => match settings.job with
    | some job => .ok (.simulate job (settings.maxCycles.getD defaultMaxCycles))
    | none => .error .missingRequiredArgument

/-- What stands behind a command. The environment is examined there too, but what it sets gives way
to what is set in front of the command. -/
def readBehind (environment : String → Option String) (name : Subcommand)
    (arguments : List String) : Except UsageError (Settings × Command) := do
  let (side, _) ← Side.empty.takeAll (some name) arguments
  let settings ← side.settle
  let _ ← settings.fill environment
  return (settings, ← commandOf settings name)

/-- What arguments and environment ask for. Without a command the rules are written. -/
def read? (environment : String → Option String) (arguments : List String) :
    Except UsageError Invocation := do
  let (side, found) ← Side.empty.takeAll none arguments
  let (behind, command) ← match found with
    | some (name, rest) => readBehind environment name rest
    | none => .ok (.empty, .emit)
  let before ← (← side.settle).fill environment
  return ofSettings (behind.orElse before) command

def location? (invocation : Invocation) : Option String :=
  (invocation.policy.map Text.trim).filter (· != "")

end Invocation

end RoutingPolicy

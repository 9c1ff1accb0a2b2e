import RoutingPolicy.Compile.Options
import RoutingPolicy.Emit.Format
import RoutingPolicy.Number.Integer

/-!
# Settings

A setting has a name and takes a value; a switch has a name and is on where it is named. Most
settings can also be made in the environment, under a name of their own. Where a setting is made at
several places, the first counts in this order: the command, the arguments before it, the
environment, the standard value.
-/

set_option autoImplicit false

namespace RoutingPolicy

inductive UsageError where
  /-- A value is missing or is none of those that can be chosen. -/
  | invalidValue
  | valueValidation
  /-- No option has the name, or an argument stands where none is expected. -/
  | unknownArgument
  /-- A value is given to an option that takes none. -/
  | tooManyValues
  | invalidSubcommand
  | argumentConflict
  | missingRequiredArgument
  | displayHelp
  | displayVersion
  deriving DecidableEq

inductive Setting where
  | policy
  | format
  | fetchTimeoutSecs
  | holdSite
  /-- The accounting group for requests of high priority. -/
  | highprioGroup
  /-- The priority of idle jobs of draining agents. -/
  | drainPrio
  | logLevel
  | logFormat
  | job
  | maxCycles
  deriving DecidableEq

namespace Setting

def all : List Setting :=
  [policy, format, fetchTimeoutSecs, holdSite, highprioGroup, drainPrio, logLevel, logFormat, job,
    maxCycles]

def name : Setting → String
  | policy => "policy"
  | format => "format"
  | fetchTimeoutSecs => "fetch-timeout-secs"
  | holdSite => "hold-site"
  | highprioGroup => "highprio-group"
  | drainPrio => "drain-prio"
  | logLevel => "log-level"
  | logFormat => "log-format"
  | job => "job"
  | maxCycles => "max-cycles"

def isOfSimulation : Setting → Bool
  | job => true
  | maxCycles => true
  | _ => false

/-- The settings that can be made in the environment, with their names there, in the order in which
the environment is read. -/
def inEnvironment : List (Setting × String) := [
  (policy, "JOBROUTER_POLICY"),
  (format, "JOBROUTER_FORMAT"),
  (fetchTimeoutSecs, "JOBROUTER_FETCH_TIMEOUT_SECS"),
  (holdSite, "JOBROUTER_HOLD_SITE"),
  (highprioGroup, "JOBROUTER_HIGHPRIO_GROUP"),
  (drainPrio, "JOBROUTER_DRAIN_PRIO"),
  (logLevel, "JOBROUTER_LOG_LEVEL"),
  (logFormat, "JOBROUTER_LOG_FORMAT")]

end Setting

inductive Switch where
  | noSort
  | noAdhoc
  deriving DecidableEq

namespace Switch

def all : List Switch := [noSort, noAdhoc]

def name : Switch → String
  | noSort => "no-sort"
  | noAdhoc => "no-adhoc"

end Switch

/-- How messages are logged: on one line each, or as JSON documents. -/
inductive LogFormat where
  | compact
  | json
  deriving DecidableEq

def RuleFormat.ofName? : String → Option RuleFormat
  | "classad" => some ads
  | "json" => some json
  | _ => none

def LogFormat.ofName? : String → Option LogFormat
  | "compact" => some compact
  | "json" => some json
  | _ => none

/-- The settings made at one place. A field has no value where its setting is not made; a switch
that is not named is off. -/
structure Settings where
  policy : Option String
  format : Option RuleFormat
  fetchTimeoutSecs : Option Nat
  holdSite : Option String
  highprioGroup : Option String
  drainPrio : Option Int64
  logLevel : Option String
  logFormat : Option LogFormat
  job : Option String
  maxCycles : Option Nat
  noSort : Bool
  noAdhoc : Bool

namespace Settings

def empty : Settings :=
  ⟨none, none, none, none, none, none, none, none, none, none, false, false⟩

def isSet (s : Settings) : Setting → Bool
  | .policy => s.policy.isSome
  | .format => s.format.isSome
  | .fetchTimeoutSecs => s.fetchTimeoutSecs.isSome
  | .holdSite => s.holdSite.isSome
  | .highprioGroup => s.highprioGroup.isSome
  | .drainPrio => s.drainPrio.isSome
  | .logLevel => s.logLevel.isSome
  | .logFormat => s.logFormat.isSome
  | .job => s.job.isSome
  | .maxCycles => s.maxCycles.isSome

def chosen {α : Type} : Option α → Except UsageError α
  | some a => .ok a
  | none => .error .invalidValue

def counted {α : Type} : Option α → Except UsageError α
  | some a => .ok a
  | none => .error .valueValidation

def put (s : Settings) (setting : Setting) (text : String) : Except UsageError Settings :=
  match setting with
  | .policy => .ok { s with policy := some text }
  | .format => return { s with format := some (← chosen (RuleFormat.ofName? text)) }
  | .fetchTimeoutSecs =>
    return { s with fetchTimeoutSecs := some (← counted (Integer.readNat? text)) }
  | .holdSite => .ok { s with holdSite := some text }
  | .highprioGroup => .ok { s with highprioGroup := some text }
  | .drainPrio => return { s with drainPrio := some (← counted (Integer.read? text)) }
  | .logLevel => .ok { s with logLevel := some text }
  | .logFormat => return { s with logFormat := some (← chosen (LogFormat.ofName? text)) }
  | .job => if text = "" then .error .invalidValue else .ok { s with job := some text }
  | .maxCycles => return { s with maxCycles := some (← counted (Integer.readNat? text)) }

/-- Makes a setting that must not be made yet. -/
def putOnce (s : Settings) (setting : Setting) (text : String) : Except UsageError Settings :=
  if s.isSet setting then .error .argumentConflict else s.put setting text

def switchOn (s : Settings) : Switch → Except UsageError Settings
  | .noSort => if s.noSort then .error .argumentConflict else .ok { s with noSort := true }
  | .noAdhoc => if s.noAdhoc then .error .argumentConflict else .ok { s with noAdhoc := true }

def fill (environment : String → Option String) (s : Settings) : Except UsageError Settings :=
  Setting.inEnvironment.foldlM (fun s (setting, key) =>
    match environment key with
    | some text => if s.isSet setting then .ok s else s.put setting text
    | none => .ok s) s

/-- The settings of `s`, and those of `t` that `s` does not make. -/
def orElse (s t : Settings) : Settings where
  policy := s.policy <|> t.policy
  format := s.format <|> t.format
  fetchTimeoutSecs := s.fetchTimeoutSecs <|> t.fetchTimeoutSecs
  holdSite := s.holdSite <|> t.holdSite
  highprioGroup := s.highprioGroup <|> t.highprioGroup
  drainPrio := s.drainPrio <|> t.drainPrio
  logLevel := s.logLevel <|> t.logLevel
  logFormat := s.logFormat <|> t.logFormat
  job := s.job <|> t.job
  maxCycles := s.maxCycles <|> t.maxCycles
  noSort := s.noSort || t.noSort
  noAdhoc := s.noAdhoc || t.noAdhoc

def compileOptions (s : Settings) : CompileOptions where
  sortWhitelist := !s.noSort
  adhoc := !s.noAdhoc
  holdSite := s.holdSite.getD CompileOptions.defaultHoldSite
  highprioGroup := s.highprioGroup.getD CompileOptions.defaultHighprioGroup
  drainPrio := s.drainPrio.getD CompileOptions.defaultDrainPrio

end Settings

end RoutingPolicy

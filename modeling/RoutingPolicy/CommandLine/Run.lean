import RoutingPolicy.CommandLine.Failure
import RoutingPolicy.CommandLine.Invocation
import RoutingPolicy.Compile.Policy
import RoutingPolicy.Emit.Output
import RoutingPolicy.Policy.Reader
import RoutingPolicy.Router.Run
import RoutingPolicy.Text.Lines

/-!
# Running commands

A command reads and compiles the policy, and then writes the rules, a summary of them, or what they
do with one job. Where no policy is named nothing is done. What files contain and what servers
answer is given as functions, so that what is written depends on the invocation and on them alone.
-/

set_option autoImplicit false

namespace RoutingPolicy

abbrev Files := String → Except FileError String

structure Response where
  status : Nat
  /-- What follows the status, or why it breaks off. -/
  body : Except (List String) String

def Response.isSuccess (r : Response) : Bool := 200 ≤ r.status && r.status < 300

/-- What servers answer to an address within so many seconds, or why they do not, the outermost
cause first. -/
abbrev Servers := String → Nat → Except (List String) Response

/-- What a command meets outside the program. -/
structure Surroundings where
  files : Files
  servers : Servers
  /-- How the fault of a malformed pattern is worded. -/
  patternFault : String → String

/-- What is reported of a compilation. -/
structure Summary where
  rules : Nat
  /-- The number of rules in each category that has any. -/
  categories : List (Category × Nat)
  /-- What is said about the entries that were left out. -/
  skipped : List String
  fingerprint : String

namespace Summary

def ofCompilation (fault : String → String) (c : Compilation) : Except EmitError Summary :=
  return ⟨c.rules.size, c.counts, c.skipped.map (·.message fault), ← c.rules.fingerprint⟩

def nameWidth : Nat := 20

def padRight (width : Nat) (text : String) : String :=
  text ++ String.ofList (List.replicate (width - text.length) ' ')

def lines (s : Summary) : List String :=
  ["Rules: " ++ Integer.natText s.rules] ++
    s.categories.map (fun (category, count) =>
      "  " ++ padRight nameWidth category.name ++ " " ++ Integer.natText count) ++
    ["Skipped: " ++ Integer.natText s.skipped.length] ++ s.skipped.map ("  " ++ ·) ++
    ["Fingerprint: " ++ s.fingerprint]

def document (s : Summary) : Json :=
  .object [("rules", .ofInt s.rules),
    ("categories",
      .object (s.categories.map fun (category, count) => (category.name, .ofInt count))),
    ("skipped", .ofStrings s.skipped), ("fingerprint", .string s.fingerprint)]

end Summary

def Summary.render (format : RuleFormat) (s : Summary) : String :=
  match format with
  | .ads => Text.ofLines s.lines
  | .json => s.document.pretty ++ "\n"

def Trace.render (format : RuleFormat) (t : Trace) (ad : JobAd) : String :=
  match format with
  | .ads => Text.ofLines
      (t.fired.map ("fired: " ++ ·) ++ ["converged: " ++ boolText t.converged, ad.toJson.pretty])
  | .json => (Json.ofMembers [("fired", .ofStrings t.fired), ("converged", .bool t.converged),
      ("ad", ad.toJson)]).pretty ++ "\n"

def readJob (files : Files) (path : String) : Except Failure JobAd := do
  let text ← (files path).mapError (Failure.unreadableJob path)
  match Json.read? text with
  | none => .error (.jobNotJson path)
  | some document => (JobAd.ofJson document).mapError (Failure.invalidJob path)

def fetchFrom (servers : Servers) (timeoutSecs : Nat) (url : String) : Except Failure String := do
  let response ← (servers url timeoutSecs).mapError (Failure.unreachablePolicy url)
  if response.isSuccess then response.body.mapError (Failure.unreachablePolicy url)
  else .error (.refusedPolicy url response.status)

def PolicyLocation.fetch (surroundings : Surroundings) (timeoutSecs : Nat) :
    PolicyLocation → Except Failure String
  | file path => (surroundings.files path).mapError (Failure.unreadablePolicy path)
  | http url => fetchFrom surroundings.servers timeoutSecs url

def readPolicy (surroundings : Surroundings) (timeoutSecs : Nat) (location : String) :
    Except Failure Policy := do
  let place ← (PolicyLocation.ofString? location).mapError Failure.unsupportedLocation
  let text ← place.fetch surroundings timeoutSecs
  (Policy.read? text).mapError (Failure.invalidPolicy place)

namespace Invocation

def runOn (invocation : Invocation) (surroundings : Surroundings) (c : Compilation) :
    Output Failure Unit :=
  match invocation.command with
  | .emit => (c.rules.emit invocation.format).adapt Failure.unwritableRules
  | .check => do
    let summary ← Output.ofExcept
      ((Summary.ofCompilation surroundings.patternFault c).mapError Failure.noFingerprint)
    Output.write (summary.render invocation.format)
  | .simulate job maxCycles => do
    let ad ← Output.ofExcept (readJob surroundings.files job)
    let (trace, ad) := c.rules.run maxCycles ad
    Output.write (trace.render invocation.format ad)

def run (invocation : Invocation) (surroundings : Surroundings) : Output Failure Unit :=
  match invocation.location? with
  | none => pure ()
  | some location => do
    let policy ← Output.ofExcept (readPolicy surroundings invocation.fetchTimeoutSecs location)
    invocation.runOn surroundings (policy.compile invocation.options)

def paths (invocation : Invocation) : List String :=
  let policy := match invocation.location?.map PolicyLocation.ofString? with
    | some (.ok (.file path)) => [path]
    | _ => []
  match invocation.command with
  | .simulate job _ => policy ++ [job]
  | _ => policy

end Invocation

end RoutingPolicy

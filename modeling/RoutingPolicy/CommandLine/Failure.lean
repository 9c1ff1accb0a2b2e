import RoutingPolicy.CommandLine.Folder
import RoutingPolicy.CommandLine.Location
import RoutingPolicy.Emit.Directive
import RoutingPolicy.Policy.Error
import RoutingPolicy.Text.Lines
import RoutingPolicy.Ad.JobAd

/-!
# Failures of commands

A failure is reported as a chain of causes, the outermost first, and with a hint where one helps.
-/

set_option autoImplicit false

namespace RoutingPolicy

inductive Failure where
  /-- The location of the policy stands for neither a file nor a server. -/
  | unsupportedLocation (cause : UnsupportedLocation)
  | unreadablePolicy (path : String) (cause : FileError)
  /-- The server with the policy cannot be reached, or its answer breaks off. -/
  | unreachablePolicy (url : String) (causes : List String)
  | refusedPolicy (url : String) (status : Nat)
  | invalidPolicy (location : PolicyLocation) (cause : PolicyError)
  | unwritableRules (cause : EmitError)
  | noFingerprint (cause : EmitError)
  /-- The file with the ad of the job cannot be read. -/
  | unreadableJob (path : String) (cause : FileError)
  | jobNotJson (path : String)
  | invalidJob (path : String) (cause : AdError)
  deriving DecidableEq

namespace Failure

/-- What is said about the failure and about its causes, the outermost first. -/
def chain : Failure → List String
  | unsupportedLocation cause => [cause.message]
  | unreadablePolicy path cause =>
    ["failed to load policy from " ++ path, "failed to read policy file " ++ path, cause.message]
  | unreachablePolicy url causes =>
    ["failed to load policy from " ++ url, "failed to fetch policy from " ++ url] ++ causes
  | refusedPolicy url status =>
    ["failed to load policy from " ++ url,
      "policy server " ++ url ++ " answered with status " ++ Integer.natText status]
  | invalidPolicy location cause => ["invalid policy document at " ++ location.text, cause.message]
  | unwritableRules cause => ["failed to write rules", cause.message]
  | noFingerprint cause => [cause.message]
  | unreadableJob path cause => ["failed to read job ad " ++ path, cause.message]
  | jobNotJson path => ["job ad " ++ path ++ " is not valid JSON", "invalid JSON"]
  | invalidJob path cause => ["invalid job ad " ++ path, cause.message]

def hint? : Failure → Option String
  | unsupportedLocation _ =>
    some "Set --policy (or JOBROUTER_POLICY) to a path or an http(s):// URL."
  | unreadablePolicy .. => some "Check that the policy file exists and is readable."
  | unreachablePolicy .. => some "Check the policy URL and your network connection."
  | refusedPolicy .. => some "Check the policy URL and your network connection."
  | invalidPolicy _ cause =>
    if cause.isThreshold then some "Threshold keys must be numbers, e.g. \"2000\"."
    else some "The policy document must be a JSON object of category sections."
  | unwritableRules _ => some "No rules were written."
  | noFingerprint _ => some "No rules were written."
  | _ => none

def report (f : Failure) : String :=
  let causes := match f.chain with
    | [] => []
    | outermost :: rest => ("Error: " ++ outermost) :: rest.map ("  caused by: " ++ ·)
  let hints := match f.hint? with
    | some hint => ["", "Hint: " ++ hint]
    | none => []
  Text.ofLines (causes ++ hints)

end Failure

end RoutingPolicy

import RoutingPolicy.Regex.Reader
import RoutingPolicy.Rule.Basic
import RoutingPolicy.Text.Diagnostic

/-!
# What an entry of a policy becomes

An entry of a policy becomes a rule, or it is skipped with a reason. Compilation of a section yields
both in the order of the entries, so what was skipped is reported in the order in which it was
found.
-/

set_option autoImplicit false

namespace RoutingPolicy

inductive SkipReason where
  | invalidSite (site : String)
  | emptySelector (rule : String)
  | duplicateTask (task kept ignored : String)
  | holdReleaseConflict (subject : String)
  | emptySiteMapping (whitelist : String)
  | invalidPattern (pattern : String) (reason : Regex.Refusal)
  | emptyWhitelist (task : String)
  deriving DecidableEq

/-- What is reported of an entry. How a fault of a pattern is worded is given by `fault`. -/
def SkipReason.message (fault : String → String) : SkipReason → String
  | invalidSite site => "invalid site identifier " ++ Text.diagnostic site
  | emptySelector rule => "rule " ++ Text.diagnostic rule ++ " has an empty selector set"
  | duplicateTask task kept ignored =>
    "task " ++ Text.diagnostic task ++ " already grouped under " ++ kept ++ "; ignoring " ++ ignored
  | holdReleaseConflict subject =>
    Text.diagnostic subject ++ " is listed for both hold and release; only releasing"
  | emptySiteMapping whitelist => "no source site maps into whitelist " ++ whitelist
  | invalidPattern pattern reason =>
    "invalid pattern " ++ Text.diagnostic pattern ++ ": " ++ reason.message fault pattern
  | emptyWhitelist task => "task " ++ Text.diagnostic task ++ " has an empty whitelist"

inductive Compiled where
  | rule (r : Rule)
  | skip (reason : SkipReason)

namespace Compiled

def rule? : Compiled → Option Rule
  | rule r => some r
  | skip _ => none

def reason? : Compiled → Option SkipReason
  | rule _ => none
  | skip reason => some reason

def rules (entries : List Compiled) : List Rule := entries.filterMap rule?

def reasons (entries : List Compiled) : List SkipReason := entries.filterMap reason?

def skips (reasons : List SkipReason) : List Compiled := reasons.map skip

end Compiled

end RoutingPolicy

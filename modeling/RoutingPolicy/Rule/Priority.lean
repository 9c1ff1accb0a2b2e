import RoutingPolicy.Ad.Eval
import RoutingPolicy.Rule.Attribute

/-!
# Keys of priority

Jobs of equal priority are ordered by two keys, the larger first. The first key weighs the priority
of the workflow most, then the length of the name of the task, then the priority that the agent
gives to the number of sites: the fewer sites, the higher. The second key is lower for longer jobs
and for jobs with more disk space. A key that 64 bits do not hold does not exist.
-/

set_option autoImplicit false

namespace RoutingPolicy

namespace Priority

def workflowWeight : Int64 := 100000

def nameLengthWeight : Int64 := 100

/-- By how many KB of disk space the second key goes down by one. -/
def diskDivisor : Int64 := 1000000

/-- The priority that the agent gives to a whitelist of so many sites: their number, negated, but
not below what 64 bits hold. -/
def ofSiteCount (count : Nat) : Int64 := (Integer.ofInt? (-count)).getD Int64.minValue

end Priority

structure PriorityInputs where
  workflowPrio : Int64
  subtaskNameLength : Int64
  sitePrio : Int64
  wallMinutes : Int64
  diskKb : Int64
  deriving DecidableEq

namespace PriorityInputs

open Priority

/-- What the keys depend on, as the ad of a job says that has no keys yet. -/
def ofAd? (ad : JobAd) : Option PriorityInputs := do
  let workflowPrio ← (ad.evalAttr Attribute.postJobPrio2).int?
  let name ← (ad.evalAttr Attribute.subtaskName).str?
  let length ← Integer.ofInt? name.length
  let sitePrio ← (ad.evalAttr Attribute.postJobPrio1).int?
  let wallMinutes ← (ad.evalAttr Attribute.maxWallTime).int?
  let diskKb ← (ad.evalAttr Attribute.requestDisk).int?
  return ⟨workflowPrio, length, sitePrio, wallMinutes, diskKb⟩

def primaryKey? (p : PriorityInputs) : Option Int64 := do
  let workflow ← Integer.mul? p.workflowPrio workflowWeight
  let name ← Integer.mul? p.subtaskNameLength nameLengthWeight
  let both ← Integer.add? workflow name
  Integer.add? both p.sitePrio

def secondaryKey? (p : PriorityInputs) : Option Int64 := do
  let wall ← Integer.neg? p.wallMinutes
  let disk ← Integer.div? p.diskKb diskDivisor
  Integer.sub? wall disk

end PriorityInputs

namespace Priority

/-- The first key as an expression, where the keys of the agent are saved. -/
def primaryExpr : Expr :=
  .named Attribute.agentPostJobPrio2 * .int workflowWeight +
    .call .size [.named Attribute.subtaskName] * .int nameLengthWeight +
    .named Attribute.agentPostJobPrio1

def secondaryExpr : Expr :=
  -.named Attribute.maxWallTime - .named Attribute.requestDisk / .int diskDivisor

end Priority

end RoutingPolicy

import RoutingPolicy.Compile.Options
import RoutingPolicy.Compile.Sites
import RoutingPolicy.Rule.Priority

/-!
# Rules on priority

One rule computes the keys of priority, and keeps those of the agent. Requests of high priority move
to their own accounting group. Idle jobs of draining agents get a high priority; that rule needs no
marker, because it selects only jobs of lower priority.
-/

set_option autoImplicit false

namespace RoutingPolicy.Compile.Ranking

def correctionRule : Rule :=
  .make .priorityCorrection "Prio Corrections"
    [.flagIsNotTrue (.target Marker.hasPrioCorrection)]
    [.copy Attribute.postJobPrio1 Attribute.agentPostJobPrio1,
      .copy Attribute.postJobPrio2 Attribute.agentPostJobPrio2,
      .evalSet Attribute.routerPostJobPrio1 Priority.primaryExpr,
      .evalSet Attribute.routerPostJobPrio2 Priority.secondaryExpr,
      .set Attribute.postJobPrio1 (.named Attribute.routerPostJobPrio1),
      .set Attribute.postJobPrio2 (.named Attribute.routerPostJobPrio2)]
    [⟨Marker.hasPrioCorrection, true⟩]

def raiseRule (options : CompileOptions) (selector : Expr) : Rule :=
  .make .priorityRaise "Raising to highprio group"
    [.flagIsNotTrue (.plain Marker.hasBeenRaisedHighPrio), selector]
    [.set Attribute.accountingGroup (.str options.highprioGroup)]
    [⟨Marker.hasBeenRaisedHighPrio, true⟩]

def raise (options : CompileOptions) (requests : List String) : List Compiled :=
  match Expr.memberOf? (.target Attribute.requestName) (Text.nonblank requests) with
  | some selector => [.rule (raiseRule options selector)]
  | none => []

def idle : Int64 := 1

def drainRule (options : CompileOptions) (agent : String) : Rule :=
  .make .drain ("Drain agent " ++ agent)
    [.matchesRegex agent (.plain Attribute.globalJobId),
      .compareTo .equal (.plain Attribute.jobStatus) (.int idle),
      .compareTo (.order .lt) (.plain Attribute.jobPrio) (.int options.drainPrio)]
    [.set Attribute.jobPrio (.int options.drainPrio)]
    []

def drainEntry (options : CompileOptions) (agent : String) : Compiled :=
  match Regex.read agent with
  | .ok _ => .rule (drainRule options agent)
  | .error reason => .skip (.invalidPattern agent reason)

def drain (options : CompileOptions) (agents : List String) : List Compiled :=
  (addAllNew [] (Text.nonblank agents)).map (drainEntry options)

end RoutingPolicy.Compile.Ranking

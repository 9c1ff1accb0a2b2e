import RoutingPolicy.Compile.Entry
import RoutingPolicy.Policy.Document
import RoutingPolicy.Rule.Attribute

/-!
# Rules that tune requirements

Every threshold makes one rule, which gives an attribute of the listed tasks the value of the
threshold. Thresholds claim their tasks in ascending order, and a task stays with the first that
claims it. Tasks that are to be resized alike share a rule.
-/

set_option autoImplicit false

namespace RoutingPolicy

/-- What the thresholds of a section mean. -/
structure Tuning where
  category : Category
  /-- The attribute that gets the value of the threshold. -/
  attr : String
  marker : String
  /-- How the names of the rules call the attribute. -/
  label : String
  further : List Mutation

namespace Tuning

def memory : Tuning :=
  ⟨.memory, Attribute.originalMemory, Marker.hasBeenMemoryTuned, "memory requirement", []⟩

/-- Thresholds are minutes on one core. The wall time follows from them. -/
def time : Tuning :=
  ⟨.time, Attribute.estimatedSingleCoreMins, Marker.hasBeenTimingTuned, "timing requirement",
    [.evalSet Attribute.originalMaxWallTime
      (.named Attribute.estimatedSingleCoreMins / .named Attribute.originalCpus)]⟩

def slope : Tuning :=
  ⟨.slope, Attribute.extraMemory, Marker.hasBeenSlopeTuned, "memory per thread requirement", []⟩

def read : Tuning :=
  ⟨.read, Attribute.estimatedInputRate, Marker.hasBeenReadTuned, "read requirement", []⟩

def ruleName (t : Tuning) (threshold : Int64) : String :=
  "Set " ++ t.label ++ " to " ++ Integer.text threshold

/-- The rule for a threshold. A job that has the value already is left alone. -/
def rule (t : Tuning) (threshold : Int64) (selector : Expr) : Rule :=
  .make t.category (t.ruleName threshold)
    [selector, .flagIsNotTrue (.plain t.marker),
      .compareTo .distinct (.plain t.attr) (.int threshold)]
    (.set t.attr (.int threshold) :: t.further)
    [⟨t.marker, true⟩]

/-- What a threshold has of its tasks so far, and which tasks are claimed by a threshold at all. -/
structure Claims where
  claimed : SortedMap String Int64
  selected : List String
  duplicates : List SkipReason

def claimTask (threshold : Int64) (claims : Claims) (task : String) : Claims :=
  match claims.claimed.get? task with
  | some kept =>
    { claims with
      duplicates := claims.duplicates ++
        [.duplicateTask task (Integer.text kept) (Integer.text threshold)] }
  | none =>
    { claims with
      claimed := claims.claimed.insert task threshold
      selected := claims.selected ++ [task] }

def claimTasks (threshold : Int64) (claimed : SortedMap String Int64) (tasks : List String) :
    Claims :=
  tasks.foldl (claimTask threshold) ⟨claimed, [], []⟩

def groupEntries (t : Tuning) (threshold : Int64) (selected : List String)
    (duplicates : List SkipReason) : List Compiled :=
  Compiled.skips duplicates ++
    match Expr.memberOf? (.plain Attribute.subtaskName) selected with
    | some selector => [.rule (t.rule threshold selector)]
    | none => [.skip (.emptySelector (t.ruleName threshold))]

/-- Compiles a threshold after those below it, whose tasks are claimed already. -/
def compileGroup (t : Tuning) (done : SortedMap String Int64 × List Compiled)
    (group : Int64 × List String) : SortedMap String Int64 × List Compiled :=
  let claims := claimTasks group.1 done.1 group.2
  (claims.claimed, done.2 ++ t.groupEntries group.1 claims.selected claims.duplicates)

def compile (t : Tuning) (thresholds : ThresholdMap) : List Compiled :=
  (thresholds.toList.foldl t.compileGroup (.empty, [])).2

end Tuning

namespace ResizePolicy

def group (resizing : SortedMap String ResizePolicy) : SortedMap ResizePolicy (List String) :=
  resizing.entries.foldl
    (fun groups (task, policy) => groups.alter policy fun known => some (known.getD [] ++ [task]))
    .empty

def ruleName (p : ResizePolicy) : String :=
  "Resize Jobs (" ++ Integer.text p.minCores ++ "-" ++ Integer.text p.maxCores ++ " cores, " ++
    Integer.text p.memoryPerThread ++ " MB/thread)"

/-- The rule. It selects jobs that are flagged as not resized yet. -/
def rule (p : ResizePolicy) (selector : Expr) : Rule :=
  .make .resize p.ruleName
    [.compareTo .identical (.target Marker.resizeJob) (.bool false), selector]
    [.set Attribute.minCores (.int p.minCores), .set Attribute.maxCores (.int p.maxCores),
      .set Attribute.extraMemory (.int p.memoryPerThread)]
    [⟨Marker.resizeJob, true⟩]

def compile (resizing : SortedMap String ResizePolicy) : List Compiled :=
  (group resizing).entries.map fun (policy, tasks) =>
    match Expr.memberOf? (.plain Attribute.subtaskName) tasks with
    | some selector => .rule (policy.rule selector)
    | none => .skip (.emptySelector policy.ruleName)

end ResizePolicy

end RoutingPolicy

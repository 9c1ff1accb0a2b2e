import RoutingPolicy.Proofs.Collections.Values
import RoutingPolicy.Proofs.Compile.OverflowContent

/-!
# What the rules of a policy depend on

The rules are compiled from less than the policy says. Of a list of tasks or of requests only the
set matters, of a list of sites only the sites that it names, and of the section on overflow only
what `OverflowContent` lists. `Policy.content` is what is left, and policies with the same content
have the same rules under all options.
-/

namespace RoutingPolicy

set_option autoImplicit false

open Compile Compile.Overflow Compile.Hold Compile.Ranking Compile.Correction

theorem Expr.memberOf?_congr {a : AttrRef} {items items' : List String}
    (same : SortedSet.ofList items = SortedSet.ofList items') :
    memberOf? a items = memberOf? a items' := by
  rw [memberOf?, memberOf?, same]

/-! ### Thresholds -/

abbrev TaskSets := SortedMap Int64 (SortedSet String)

namespace TaskSets

def lowest? (sets : TaskSets) (task : String) : Option Int64 :=
  (sets.entries.find? fun group => group.2.contains task).map (·.1)

/-- The rule for a threshold, for the tasks that no lower threshold has. -/
def rule? (t : Tuning) (sets : TaskSets) (group : Int64 × SortedSet String) : Option Rule :=
  (Expr.memberOf? (.plain Attribute.subtaskName)
    (group.2.toList.filter fun task => lowest? sets task == some group.1)).map (t.rule group.1)

end TaskSets

namespace ThresholdMap

def taskSets (m : ThresholdMap) : TaskSets := m.groups.mapValues SortedSet.ofList

theorem lowest?_eq (m : ThresholdMap) (task : String) :
    m.lowest? task = TaskSets.lowest? m.taskSets task := by
  have tests : (fun group : Int64 × List String => group.2.contains task) =
      (fun group : Int64 × SortedSet String => group.2.contains task) ∘
        fun group => (group.1, SortedSet.ofList group.2) := by
    funext group
    rw [Function.comp_apply, Bool.eq_iff_iff, List.contains_iff_mem, SortedSet.contains,
      decide_eq_true_iff]
    exact SortedSet.mem_ofList.symm
  rw [lowest?, TaskSets.lowest?, taskSets, SortedMap.entries_mapValues, List.find?_map, ← tests,
    Option.map_map]
  rfl

theorem taskSets_insert (m : ThresholdMap) (threshold : Int64) (tasks : List String) :
    (m.insert threshold tasks).taskSets = m.taskSets.alter threshold fun known =>
      some ((SortedSet.ofList tasks).toList.foldl SortedSet.insert (known.getD .empty)) := by
  refine SortedMap.mapValues_alter (fun known => ?_) m.groups threshold
  rw [Option.map_some, Option.some.injEq]
  apply SortedSet.ext
  intro task
  have listed : task ∈ (SortedSet.ofList tasks).toList ↔ task ∈ tasks := SortedSet.mem_ofList
  rw [SortedSet.mem_ofList, SortedSet.mem_foldl_insert, mem_addAllNew, listed]
  cases known with
  | none => simp
  | some known =>
      simp only [Option.getD_some, Option.map_some, SortedSet.mem_ofList]
      exact or_comm

end ThresholdMap

namespace Tuning

theorem rules_compile_eq (t : Tuning) (m : ThresholdMap) :
    Compiled.rules (t.compile m) = m.taskSets.entries.filterMap (TaskSets.rule? t m.taskSets) := by
  rw [rules_compile, ThresholdMap.toList, ThresholdMap.taskSets, SortedMap.entries_mapValues,
    List.filterMap_map, ← ThresholdMap.taskSets]
  apply List.filterMap_congr
  rintro ⟨threshold, tasks⟩ _
  have selects : SortedSet.ofList (selected m threshold tasks) =
      SortedSet.ofList ((SortedSet.ofList tasks).toList.filter fun task =>
        TaskSets.lowest? m.taskSets task == some threshold) := by
    apply SortedSet.ofList_congr
    intro task
    have listed : task ∈ (SortedSet.ofList tasks).toList ↔ task ∈ tasks := SortedSet.mem_ofList
    rw [selected, List.mem_filter, List.mem_filter, listed, ThresholdMap.lowest?_eq]
  rw [Function.comp_apply, rule?, TaskSets.rule?, Expr.memberOf?_congr selects]

theorem rules_compile_congr (t : Tuning) {m m' : ThresholdMap} (same : m.taskSets = m'.taskSets) :
    Compiled.rules (t.compile m) = Compiled.rules (t.compile m') := by
  rw [rules_compile_eq, rules_compile_eq, same]

end Tuning

/-! ### Policies -/

structure PolicyContent where
  listings : List ListingContent
  destinations : DestinationMap
  resizing : SortedMap String ResizePolicy
  read : TaskSets
  memory : TaskSets
  time : TaskSets
  slope : TaskSets
  /-- The tasks that are held, and not released as well. -/
  heldTasks : List String
  releasedTasks : SortedSet String
  /-- The sites that are held, and not released as well. -/
  heldSites : List SiteName
  releasedSites : List SiteName
  /-- The requests of high priority. -/
  requests : SortedSet String
  /-- Patterns for draining agents. -/
  agents : List String
  flags : List String

namespace Policy

def content (p : Policy) : PolicyContent where
  listings := p.overflow.contents
  destinations := p.overflow.destinations
  resizing := p.resizing
  read := p.read.taskSets
  memory := p.memory.taskSets
  time := p.time.taskSets
  slope := p.slope.taskSets
  heldTasks := p.heldTasks
  releasedTasks := p.release
  heldSites := p.heldSites
  releasedSites := validSites p.releaseSite
  requests := SortedSet.ofList (Text.nonblank p.highprio)
  agents := p.speedDrain
  flags := p.resetRouting

variable {p q : Policy}

theorem rules_entries_congr (same : p.content = q.content) (options : CompileOptions)
    (category : Category) :
    Compiled.rules (p.entries options category) = Compiled.rules (q.entries options category) := by
  simp only [content, PolicyContent.mk.injEq] at same
  rcases same with ⟨listings, destinations, resizing, read, memory, time, slope, heldTasks,
    releasedTasks, heldSites, releasedSites, requests, agents, flags⟩
  cases category with
  | overflow => exact Overflow.rules_compile_congr listings destinations
  | memory => exact Tuning.memory.rules_compile_congr memory
  | time => exact Tuning.time.rules_compile_congr time
  | slope => exact Tuning.slope.rules_compile_congr slope
  | read => exact Tuning.read.rules_compile_congr read
  | resize =>
      change Compiled.rules (ResizePolicy.compile p.resizing) =
        Compiled.rules (ResizePolicy.compile q.resizing)
      rw [resizing]
  | hold =>
      change Compiled.rules (p.compileHold options) = Compiled.rules (q.compileHold options)
      rw [rules_compileHold, rules_compileHold, heldTasks]
  | release =>
      change Compiled.rules (taskEntries releaseTasksRule p.release.toList) =
        Compiled.rules (taskEntries releaseTasksRule q.release.toList)
      rw [releasedTasks]
  | holdSite =>
      change Compiled.rules p.compileHoldSite = Compiled.rules q.compileHoldSite
      rw [rules_compileHoldSite, rules_compileHoldSite, heldSites]
  | releaseSite =>
      change Compiled.rules p.compileReleaseSite = Compiled.rules q.compileReleaseSite
      rw [rules_compileReleaseSite, rules_compileReleaseSite, releasedSites]
  | priorityRaise =>
      change Compiled.rules (raise options p.highprio) = Compiled.rules (raise options q.highprio)
      rw [rules_raise, rules_raise, Expr.memberOf?_congr requests]
  | drain =>
      change Compiled.rules (drain options p.speedDrain) =
        Compiled.rules (drain options q.speedDrain)
      rw [agents]
  | reset =>
      change Compiled.rules (reset p.resetRouting) = Compiled.rules (reset q.resetRouting)
      rw [flags]
  | sortWhitelist | priorityCorrection | adHoc => rfl

/-- Policies with the same content have the same rules, in the same order. -/
theorem rules_compile_congr (same : p.content = q.content) (options : CompileOptions) :
    (p.compile options).rules = (q.compile options).rules := by
  simp only [compile, rules_entries_congr same options]

end Policy

end RoutingPolicy

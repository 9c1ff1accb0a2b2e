import RoutingPolicy.Proofs.Ad.Reading
import RoutingPolicy.Proofs.Compile.Place

/-!
# Partitions of tasks

Thresholds and ways of resizing divide the tasks of a section into groups: a task belongs to the
lowest threshold that lists it, or to the way in which it is resized. Each group that is not empty
makes one rule, for exactly its tasks. Of a section with thresholds everything else is reported, and
reported once: a task that a lower threshold lists as well, and a threshold to which no task is
left.
-/

namespace RoutingPolicy

set_option autoImplicit false

/-! ### Groups -/

def taskSelector (tasks : SortedSet String) : Expr :=
  .member (.attr (.plain Attribute.subtaskName)) (.lit (.ofStrings tasks.toList))

theorem memberOf?_eq_taskSelector {tasks : List String} (listed : tasks ≠ []) :
    Expr.memberOf? (.plain Attribute.subtaskName) tasks = some (taskSelector (.ofList tasks)) := by
  have selects : Expr.memberOf? (.plain Attribute.subtaskName) tasks ≠ none :=
    mt Expr.memberOf?_eq_none_iff.1 listed
  rw [Expr.memberOf?] at selects ⊢
  split
  · next empty => exact absurd (if_pos empty) selects
  · rfl

namespace SortedMap

section Groups

variable {Key : Type} [Ord Key] {placed : Key → String → Prop}

/-- Every task is in the group at which it is placed, and in no other, and no group is empty. -/
structure Partitions (groups : SortedMap Key (SortedSet String))
    (placed : Key → String → Prop) : Prop where
  inhabited : ∀ key tasks, groups.get? key = some tasks → tasks ≠ .empty
  mem_iff : ∀ key task, (∃ tasks, groups.get? key = some tasks ∧ task ∈ tasks) ↔ placed key task

/-- Under each key the set of the tasks that are selected there, if there are any. -/
def selecting (select : Key → List String → List String) (m : SortedMap Key (List String)) :
    SortedMap Key (SortedSet String) :=
  m.filterMap fun key tasks =>
    if select key tasks = [] then none else some (.ofList (select key tasks))

variable {select : Key → List String → List String} {m : SortedMap Key (List String)}

theorem map_rule_selecting (rule : Key → Expr → Rule) :
    ((m.selecting select).entries.map fun group => rule group.1 (taskSelector group.2)) =
      m.entries.filterMap fun group =>
        (Expr.memberOf? (.plain Attribute.subtaskName) (select group.1 group.2)).map
          (rule group.1) := by
  rw [selecting, filterMap, List.map_filterMap]
  refine List.filterMap_congr fun group _ => ?_
  obtain ⟨key, tasks⟩ := group
  by_cases empty : select key tasks = []
  · simp [empty, Expr.memberOf?_eq_none_iff.2]
  · simp [empty, memberOf?_eq_taskSelector empty]

theorem partitions_selecting [Std.TransOrd Key] [Std.LawfulEqOrd Key]
    (selected : ∀ key task, (∃ entry ∈ m.entries, entry.1 = key ∧
      task ∈ select entry.1 entry.2) ↔ placed key task) :
    (m.selecting select).Partitions placed where
  inhabited := by
    intro key tasks found empty
    rw [selecting, get?_filterMap, Option.bind_eq_some_iff] at found
    obtain ⟨listed, -, made⟩ := found
    split at made
    · cases made
    · next some_task =>
        obtain ⟨task, member⟩ := List.exists_mem_of_ne_nil _ some_task
        have kept : task ∈ tasks := by
          rw [← Option.some.inj made]
          exact SortedSet.mem_ofList.2 member
        rw [empty] at kept
        exact SortedSet.not_mem_empty task kept
  mem_iff := by
    intro key task
    rw [← selected, selecting]
    simp only [get?_filterMap, Option.bind_eq_some_iff]
    constructor
    · rintro ⟨tasks, ⟨listed, found, made⟩, member⟩
      split at made
      · cases made
      · rw [← Option.some.inj made, SortedSet.mem_ofList] at member
        exact ⟨(key, listed), get?_eq_some_iff.1 found, rfl, member⟩
    · rintro ⟨⟨key, listed⟩, entry, rfl, member⟩
      have found := get?_eq_some_iff.2 entry
      exact ⟨_, ⟨listed, found, if_neg (List.ne_nil_of_mem member)⟩, SortedSet.mem_ofList.2 member⟩

end Groups

end SortedMap

/-! ### The lowest threshold of a task -/

namespace ThresholdMap

variable {m : ThresholdMap} {threshold other : Int64} {task : String}

def Lists (m : ThresholdMap) (threshold : Int64) (task : String) : Prop :=
  ∃ tasks, m.get? threshold = some tasks ∧ task ∈ tasks

structure Lowest (m : ThresholdMap) (threshold : Int64) (task : String) : Prop where
  listed : m.Lists threshold task
  least : ∀ other, m.Lists other task → threshold ≤ other

theorem lists_iff :
    m.Lists threshold task ↔ ∃ tasks, (threshold, tasks) ∈ m.toList ∧ task ∈ tasks :=
  exists_congr fun _ => and_congr_left fun _ => SortedMap.get?_eq_some_iff

theorem Lowest.of_lowest? (lowest : m.lowest? task = some threshold) : m.Lowest threshold task := by
  obtain ⟨⟨threshold, tasks⟩, found, rfl⟩ := Option.map_eq_some_iff.1 lowest
  obtain ⟨member, before, after, entries, missing⟩ := List.find?_eq_some_iff_append.1 found
  rw [List.contains_iff_mem] at member
  have ascending : m.toList.Pairwise fun a b => compare a.1 b.1 = .lt := m.groups.ascending
  rw [entries, List.pairwise_append, List.pairwise_cons] at ascending
  refine ⟨lists_iff.2 ⟨tasks, by simp [entries], member⟩, ?_⟩
  intro other listed
  obtain ⟨tasks', entry, member'⟩ := lists_iff.1 listed
  rw [entries, List.mem_append, List.mem_cons] at entry
  -- A group in front of the one that is found does not have the task, the ones behind are higher.
  rcases entry with earlier | same | later
  · have without := missing _ earlier
    simp [member'] at without
  · cases same
    exact Int64.le_refl threshold
  · exact Int64.le_of_lt (Std.compare_eq_lt.1 (ascending.2.1.1 _ later))

theorem Lists.exists_lowest? (listed : m.Lists threshold task) :
    ∃ kept, m.lowest? task = some kept := by
  obtain ⟨tasks, entry, member⟩ := lists_iff.1 listed
  rw [lowest?, ← Option.isSome_iff_exists, Option.isSome_map, List.find?_isSome]
  exact ⟨(threshold, tasks), entry, List.contains_iff_mem.2 member⟩

theorem lowest?_iff : m.lowest? task = some threshold ↔ m.Lowest threshold task := by
  constructor
  · exact Lowest.of_lowest?
  · intro lowest
    obtain ⟨kept, found⟩ := lowest.listed.exists_lowest?
    have least := Lowest.of_lowest? found
    rw [found, Int64.le_antisymm (least.least _ lowest.listed) (lowest.least _ least.listed)]

end ThresholdMap

/-! ### Reports -/

theorem Integer.text_injective : Function.Injective Integer.text := by
  intro i j same
  have read := read?_text i
  rw [same, read?_text] at read
  exact (Option.some.inj read).symm

namespace Tuning

variable {t : Tuning} {m : ThresholdMap} {threshold threshold' : Int64} {reason : SkipReason}

theorem ruleName_injective (t : Tuning) : Function.Injective t.ruleName := by
  intro i j same
  exact Integer.text_injective ((String.append_right_inj _).1 same)

/-- What is reported of a threshold: each task that a lower one lists as well, and that no task is
left to it. -/
inductive Reports (t : Tuning) (m : ThresholdMap) (threshold : Int64) : SkipReason → Prop where
  | duplicate {task : String} {kept : Int64} (lowest : m.Lowest kept task)
      (listed : m.Lists threshold task) (ignored : threshold ≠ kept) :
      Reports t m threshold
        (.duplicateTask task (Integer.text kept) (Integer.text threshold))
  | empty {tasks : List String} (present : m.get? threshold = some tasks)
      (left : ∀ task, ¬ m.Lowest threshold task) :
      Reports t m threshold (.emptySelector (t.ruleName threshold))

theorem Reports.threshold_eq (reports : t.Reports m threshold reason)
    (reports' : t.Reports m threshold' reason) : threshold = threshold' := by
  cases reports with
  | duplicate =>
      generalize named : SkipReason.duplicateTask _ _ _ = reason at reports'
      cases reports' with
      | duplicate =>
          injection named with _ _ same
          exact Integer.text_injective same
      | empty => cases named
  | empty =>
      generalize named : SkipReason.emptySelector _ = reason at reports'
      cases reports' with
      | duplicate => cases named
      | empty =>
          injection named with same
          exact t.ruleName_injective same

def groupReasons (t : Tuning) (m : ThresholdMap) (threshold : Int64) (tasks : List String) :
    List SkipReason :=
  tasks.filterMap (duplicate? m threshold) ++
    if selected m threshold tasks = [] then [.emptySelector (t.ruleName threshold)] else []

theorem reasons_compile (t : Tuning) (m : ThresholdMap) :
    Compiled.reasons (t.compile m) =
      m.toList.flatMap fun (threshold, tasks) => t.groupReasons m threshold tasks := by
  rw [compile_eq, Compiled.reasons, List.filterMap_flatMap]
  refine List.flatMap_congr fun (threshold, tasks) _ => ?_
  have duplicates (reasons : List SkipReason) :
      (Compiled.skips reasons).filterMap Compiled.reason? = reasons := by
    rw [Compiled.skips, List.filterMap_map]
    exact List.filterMap_some
  simp only [groupEntries, groupReasons, List.filterMap_append, duplicates]
  by_cases empty : selected m threshold tasks = []
  · rw [if_pos empty, Expr.memberOf?_eq_none_iff.2 empty]
    rfl
  · rw [if_neg empty, memberOf?_eq_taskSelector empty]
    rfl

theorem duplicate?_eq_some_iff {task : String} : duplicate? m threshold task = some reason ↔
    ∃ kept, m.Lowest kept task ∧ threshold ≠ kept ∧
      reason = .duplicateTask task (Integer.text kept) (Integer.text threshold) := by
  simp only [← ThresholdMap.lowest?_iff, duplicate?]
  cases m.lowest? task with
  | none => simp
  | some kept => grind

theorem mem_groupReasons_iff {tasks : List String} (entry : m.get? threshold = some tasks) :
    reason ∈ t.groupReasons m threshold tasks ↔ t.Reports m threshold reason := by
  have listed (task : String) : task ∈ tasks ↔ m.Lists threshold task := by
    simp [ThresholdMap.Lists, entry]
  have selects (task : String) : task ∈ selected m threshold tasks ↔ m.Lowest threshold task := by
    rw [selected, List.mem_filter, beq_iff_eq, ThresholdMap.lowest?_iff, listed]
    exact and_iff_right_of_imp fun lowest => lowest.listed
  rw [groupReasons, List.mem_append, List.mem_filterMap]
  constructor
  · rintro (⟨task, member, made⟩ | left)
    · obtain ⟨kept, lowest, ignored, rfl⟩ := duplicate?_eq_some_iff.1 made
      exact .duplicate lowest ((listed task).1 member) ignored
    · split at left
      · next empty =>
          rw [List.mem_singleton.1 left]
          refine .empty entry fun task lowest => ?_
          rw [← selects, empty] at lowest
          cases lowest
      · cases left
  · intro reports
    cases reports with
    | duplicate lowest member ignored =>
        exact .inl ⟨_, (listed _).2 member, duplicate?_eq_some_iff.2 ⟨_, lowest, ignored, rfl⟩⟩
    | empty present left =>
        have empty : selected m threshold tasks = [] :=
          List.eq_nil_iff_forall_not_mem.2 fun task => mt (selects task).1 (left task)
        rw [if_pos empty]
        exact .inr List.mem_cons_self

theorem mem_reasons_compile_iff :
    reason ∈ Compiled.reasons (t.compile m) ↔ ∃ threshold, t.Reports m threshold reason := by
  rw [reasons_compile, List.mem_flatMap]
  constructor
  · rintro ⟨⟨threshold, tasks⟩, entry, member⟩
    exact ⟨threshold, (mem_groupReasons_iff (SortedMap.get?_eq_some_iff.2 entry)).1 member⟩
  · rintro ⟨threshold, reports⟩
    obtain ⟨tasks, present⟩ : ∃ tasks, m.get? threshold = some tasks := by
      cases reports with
      | duplicate _ listed _ => exact listed.imp fun _ => And.left
      | empty present _ => exact ⟨_, present⟩
    exact ⟨(threshold, tasks), SortedMap.get?_eq_some_iff.1 present,
      (mem_groupReasons_iff present).2 reports⟩

theorem nodup_groupReasons {tasks : List String} (distinct : tasks.Nodup) :
    (t.groupReasons m threshold tasks).Nodup := by
  refine List.Nodup.append (distinct.filterMap ?_) ?_ ?_
  · intro task task' reason made made'
    obtain ⟨_, _, _, rfl⟩ := duplicate?_eq_some_iff.1 made
    obtain ⟨_, _, _, same⟩ := duplicate?_eq_some_iff.1 made'
    injection same
  · split <;> simp
  · intro reason duplicate left
    obtain ⟨task, _, made⟩ := List.mem_filterMap.1 duplicate
    obtain ⟨_, _, _, rfl⟩ := duplicate?_eq_some_iff.1 made
    split at left <;> simp at left

theorem nodup_reasons_compile : (Compiled.reasons (t.compile m)).Nodup := by
  rw [reasons_compile, List.nodup_flatMap]
  constructor
  · intro group entry
    exact nodup_groupReasons (m.distinct group entry)
  · have entries : ∀ group ∈ m.toList, m.get? group.1 = some group.2 :=
      fun group entry => SortedMap.get?_eq_some_iff.2 entry
    have apart : m.toList.Pairwise fun a b => compare a.1 b.1 = .lt := m.groups.ascending
    -- Each report names the threshold, so groups that share a report have the same threshold.
    refine apart.imp_of_mem fun {a b} first second ascends => ?_
    intro reason member member'
    have same := ((mem_groupReasons_iff (entries a first)).1 member).threshold_eq
      ((mem_groupReasons_iff (entries b second)).1 member')
    rw [same] at ascends
    simp at ascends

/-- The rules for thresholds are those of a partition by the lowest threshold, and what else a
section lists is reported, each entry once. -/
structure Partitions (t : Tuning) (m : ThresholdMap) : Prop where
  rules : ∃ groups : SortedMap Int64 (SortedSet String), groups.Partitions m.Lowest ∧
    Compiled.rules (t.compile m) =
      groups.entries.map fun (threshold, tasks) => t.rule threshold (taskSelector tasks)
  reported : ∀ reason, reason ∈ Compiled.reasons (t.compile m) ↔
    ∃ threshold, t.Reports m threshold reason
  once : (Compiled.reasons (t.compile m)).Nodup

theorem partitions (t : Tuning) (m : ThresholdMap) : t.Partitions m where
  rules := by
    have placed (threshold : Int64) (task : String) :
        (∃ group ∈ m.groups.entries, group.1 = threshold ∧ task ∈ selected m group.1 group.2) ↔
          m.Lowest threshold task :=
      ThresholdMap.lowest?_eq_some_iff.symm.trans ThresholdMap.lowest?_iff
    refine ⟨m.groups.selecting (selected m), SortedMap.partitions_selecting placed, ?_⟩
    rw [rules_compile, SortedMap.map_rule_selecting]
    rfl
  reported _ := mem_reasons_compile_iff
  once := nodup_reasons_compile

/-- A threshold whose only task has a lower one makes no rule and two reports. -/
example :
    Compiled.reasons (read.compile ((ThresholdMap.empty.insert 1 ["/wf/A"]).insert 2 ["/wf/A"])) =
      [.duplicateTask "/wf/A" "1" "2", .emptySelector "Set read requirement to 2"] := by
  decide +kernel

end Tuning

/-! ### Resizing -/

namespace ResizePolicy

theorem ne_nil_of_get?_group {resizing : SortedMap String ResizePolicy} :
    ∀ policy tasks, (group resizing).get? policy = some tasks → tasks ≠ [] := by
  rw [group]
  refine List.foldlRecOn (motive := fun groups : SortedMap ResizePolicy (List String) =>
    ∀ policy tasks, groups.get? policy = some tasks → tasks ≠ []) _ _ ?_ ?_
  · intro policy tasks found
    cases found
  · rintro groups inhabited ⟨task, own⟩ _ policy tasks found
    rw [SortedMap.get?_alter] at found
    split at found
    · rw [← Option.some.inj found]
      simp
    · exact inhabited policy tasks found

/-- The rules for resizing are those of a partition by what is asked for, and nothing is
reported. -/
structure Partitions (resizing : SortedMap String ResizePolicy) : Prop where
  rules : ∃ groups : SortedMap ResizePolicy (SortedSet String),
    groups.Partitions (fun policy task => resizing.get? task = some policy) ∧
      Compiled.rules (compile resizing) =
        groups.entries.map fun (policy, tasks) => policy.rule (taskSelector tasks)
  silent : Compiled.reasons (compile resizing) = []

theorem partitions (resizing : SortedMap String ResizePolicy) : Partitions resizing where
  rules := by
    have placed (policy : ResizePolicy) (task : String) :
        (∃ entry ∈ (group resizing).entries, entry.1 = policy ∧ task ∈ entry.2) ↔
          resizing.get? task = some policy :=
      exists_mem_group_iff
    refine ⟨(group resizing).selecting fun _ tasks => tasks,
      SortedMap.partitions_selecting placed, ?_⟩
    rw [rules_compile, SortedMap.map_rule_selecting]
    rfl
  silent := by
    rw [compile, Compiled.reasons, List.filterMap_map, List.filterMap_eq_nil_iff]
    rintro ⟨policy, tasks⟩ entry
    have listed := ne_nil_of_get?_group policy tasks (SortedMap.get?_eq_some_iff.2 entry)
    simp only [Function.comp_apply, memberOf?_eq_taskSelector listed]
    rfl

end ResizePolicy

/-- Whatever the thresholds are and whatever is to be resized, the rules are those of partitions,
from the lowest key up, and the reports are exactly those of what no rule takes. -/
theorem tuning_and_resizing_are_partitions :
    (∀ (t : Tuning) (m : ThresholdMap), t.Partitions m) ∧
      ∀ resizing : SortedMap String ResizePolicy, ResizePolicy.Partitions resizing :=
  ⟨Tuning.partitions, ResizePolicy.partitions⟩

end RoutingPolicy

import Mathlib
import RoutingPolicy.Compile.Policy

/-!
# Claims of tasks

The loops over thresholds and over replacements keep a map of the tasks that are claimed already. A
step adds the task of the step to the map, or leaves the map as it is. After any number of steps the
map has for each task the first that claims it, so in the end what becomes of an entry depends on
the whole section and not on the state of the loop.
-/

namespace RoutingPolicy

set_option autoImplicit false

/-! ### Thresholds -/

namespace Tuning

/-- The tasks of a threshold that no lower one lists. -/
def selected (thresholds : ThresholdMap) (threshold : Int64) (tasks : List String) : List String :=
  tasks.filter fun task => thresholds.lowest? task == some threshold

/-- The report on a task that a lower threshold lists as well. -/
def duplicate? (thresholds : ThresholdMap) (threshold : Int64) (task : String) :
    Option SkipReason :=
  match thresholds.lowest? task with
  | some kept =>
    if kept = threshold then none
    else some (.duplicateTask task (Integer.text kept) (Integer.text threshold))
  | none => none

variable {threshold : Int64} {claimed : SortedMap String Int64} {tasks : List String}
  {claims : Claims} {task : String}

/-- What a threshold has after some of its tasks, where lower ones have claimed theirs before. -/
structure ClaimsAfter (threshold : Int64) (claimed : SortedMap String Int64) (tasks : List String)
    (claims : Claims) : Prop where
  claimed_get? : ∀ task, claims.claimed.get? task =
    (claimed.get? task).or (if task ∈ tasks then some threshold else none)
  selected_eq : claims.selected = tasks.filter fun task => (claimed.get? task).isNone
  duplicates_eq : claims.duplicates = tasks.filterMap fun task =>
    (claimed.get? task).map fun kept =>
      .duplicateTask task (Integer.text kept) (Integer.text threshold)

theorem ClaimsAfter.claimTask (after : ClaimsAfter threshold claimed tasks claims)
    (new : task ∉ tasks) :
    ClaimsAfter threshold claimed (tasks ++ [task]) (claimTask threshold claims task) := by
  obtain ⟨claimed_get?, selected_eq, duplicates_eq⟩ := after
  have known := claimed_get? task
  rw [if_neg new, Option.or_none] at known
  unfold Tuning.claimTask
  cases taken : claimed.get? task with
  | some kept =>
      rw [known, taken]
      refine ⟨fun other => ?_, by simp [selected_eq, taken], by simp [duplicates_eq, taken]⟩
      rw [claimed_get?]
      by_cases same : other = task
      · simp [same, taken]
      · simp [same]
  | none =>
      rw [known, taken]
      refine ⟨fun other => ?_, by simp [selected_eq, taken], by simp [duplicates_eq, taken]⟩
      rw [SortedMap.get?_insert, claimed_get?]
      by_cases same : other = task
      · simp [same, taken]
      · simp [same]

theorem claimsAfter_claimTasks (threshold : Int64) (claimed : SortedMap String Int64)
    (distinct : tasks.Nodup) :
    ClaimsAfter threshold claimed tasks (claimTasks threshold claimed tasks) := by
  induction tasks using List.reverseRecOn with
  | nil => exact ⟨by simp [claimTasks], rfl, rfl⟩
  | append_singleton tasks task induction =>
      obtain ⟨earlier, -, apart⟩ := List.nodup_append.1 distinct
      rw [claimTasks, List.foldl_append]
      exact (induction earlier).claimTask fun member => apart task member task (by simp) rfl

/-- The first of the groups that lists a task. -/
def firstListing? (groups : List (Int64 × List String)) (task : String) : Option Int64 :=
  (groups.find? fun group => group.2.contains task).map (·.1)

/-- What a section has after the lowest of its thresholds. -/
structure CompiledAfter (t : Tuning) (thresholds : ThresholdMap)
    (groups : List (Int64 × List String)) (done : SortedMap String Int64 × List Compiled) :
    Prop where
  claimed_get? : ∀ task, done.1.get? task = firstListing? groups task
  entries_eq : done.2 = groups.flatMap fun (threshold, tasks) =>
    t.groupEntries threshold (selected thresholds threshold tasks)
      (tasks.filterMap (duplicate? thresholds threshold))

variable {t : Tuning} {thresholds : ThresholdMap} {groups rest : List (Int64 × List String)}
  {group : Int64 × List String} {done : SortedMap String Int64 × List Compiled}

theorem lowest?_of_mem (section_eq : thresholds.toList = groups ++ group :: rest)
    (member : task ∈ group.2) :
    thresholds.lowest? task = (firstListing? groups task).or (some group.1) := by
  rw [ThresholdMap.lowest?, section_eq, firstListing?, List.find?_append,
    List.find?_cons_of_pos (by simpa using member), Option.map_or]
  rfl

theorem firstListing?_ne (section_eq : thresholds.toList = groups ++ group :: rest) {kept : Int64}
    (listed : firstListing? groups task = some kept) : kept ≠ group.1 := by
  obtain ⟨earlier, found, rfl⟩ := Option.map_eq_some_iff.1 listed
  have ascending : thresholds.toList.Pairwise fun a b => compare a.1 b.1 = .lt :=
    thresholds.groups.ascending
  rw [section_eq, List.pairwise_append] at ascending
  have below := ascending.2.2 earlier (List.mem_of_find?_eq_some found) group (by simp)
  intro same
  simp [same] at below

theorem CompiledAfter.compileGroup (after : CompiledAfter t thresholds groups done)
    (section_eq : thresholds.toList = groups ++ group :: rest) :
    CompiledAfter t thresholds (groups ++ [group]) (t.compileGroup done group) := by
  obtain ⟨claimed_get?, entries_eq⟩ := after
  have distinct : group.2.Nodup :=
    thresholds.distinct group (by rw [← ThresholdMap.toList, section_eq]; simp)
  have claims := claimsAfter_claimTasks group.1 done.1 distinct
  constructor
  · intro task
    rw [Tuning.compileGroup, claims.claimed_get?, claimed_get?, firstListing?, firstListing?,
      List.find?_append, Option.map_or]
    by_cases member : task ∈ group.2 <;> simp [member]
  · have selected_eq : (claimTasks group.1 done.1 group.2).selected =
        selected thresholds group.1 group.2 := by
      rw [claims.selected_eq, selected]
      refine List.filter_congr fun task member => ?_
      rw [lowest?_of_mem section_eq member, claimed_get?]
      cases listed : firstListing? groups task with
      | none => simp
      | some kept => simpa using firstListing?_ne section_eq listed
    have duplicates_eq : (claimTasks group.1 done.1 group.2).duplicates =
        group.2.filterMap (duplicate? thresholds group.1) := by
      rw [claims.duplicates_eq]
      refine List.filterMap_congr fun task member => ?_
      rw [duplicate?, lowest?_of_mem section_eq member, claimed_get?]
      cases listed : firstListing? groups task with
      | none => simp
      | some kept => simp [firstListing?_ne section_eq listed]
    rw [Tuning.compileGroup, entries_eq, selected_eq, duplicates_eq, List.flatMap_append,
      List.flatMap_singleton]

theorem compiledAfter_foldl (section_eq : thresholds.toList = groups ++ rest) :
    CompiledAfter t thresholds groups (groups.foldl t.compileGroup (.empty, [])) := by
  induction groups using List.reverseRecOn generalizing rest with
  | nil => exact ⟨fun _ => rfl, rfl⟩
  | append_singleton groups group induction =>
      rw [List.append_assoc, List.singleton_append] at section_eq
      rw [List.foldl_append]
      exact (induction section_eq).compileGroup section_eq

/-- What becomes of a threshold depends on the tasks of the lower ones, not on the loop. -/
theorem compile_eq (t : Tuning) (thresholds : ThresholdMap) :
    t.compile thresholds = thresholds.toList.flatMap fun (threshold, tasks) =>
      t.groupEntries threshold (selected thresholds threshold tasks)
        (tasks.filterMap (duplicate? thresholds threshold)) :=
  (compiledAfter_foldl (List.append_nil _).symm).entries_eq

end Tuning

/-! ### Replacements -/

theorem Modifications.pairwise_listings (m : Modifications) :
    m.listings.Pairwise fun l l' => l.workflow = l'.workflow → l.task ≠ l'.task := by
  rw [listings, List.pairwise_flatMap]
  constructor
  · rintro ⟨workflow, tasks⟩ _
    rw [List.pairwise_map]
    apply tasks.distinct_keys.imp
    intro e e' different _
    exact different
  · apply m.distinct_keys.imp
    rintro ⟨workflow, tasks⟩ ⟨workflow', tasks'⟩ different l member l' member' same
    rcases List.mem_map.1 member with ⟨_, _, rfl⟩
    rcases List.mem_map.1 member' with ⟨_, _, rfl⟩
    exact absurd same different

namespace Compile.Overflow

/-- The first workflow that replaces the whitelist of a task. -/
def replacedBy? (listings : List Listing) (task : String) : Option String :=
  (listings.find? fun l => l.task == task && l.modification.replacement.isSome).map (·.workflow)

/-- What becomes of a modification, as far as it replaces the whitelist. -/
def replacementEntries (listings : List Listing) (l : Listing) : List Compiled :=
  match l.modification.replacement, replacedBy? listings l.task with
  | some sites, some kept =>
    if kept = l.workflow then replacement l.task sites
    else
      [.skip (.duplicateTask l.task ("replacement from " ++ kept)
        ("replacement from " ++ l.workflow))]
  | _, _ => []

variable {m : Modifications} {listings rest : List Listing} {l : Listing} {task : String}
  {done : SortedMap String String × List Compiled}

/-- What the modifications that were carried out so far have left. -/
structure ReplacedAfter (m : Modifications) (listings : List Listing)
    (done : SortedMap String String × List Compiled) : Prop where
  replaced_get? : ∀ task, done.1.get? task = replacedBy? listings task
  entries_eq : done.2 = listings.flatMap (replacementEntries m.listings)

theorem replacedBy?_append (listings rest : List Listing) (task : String) :
    replacedBy? (listings ++ rest) task =
      (replacedBy? listings task).or (replacedBy? rest task) := by
  rw [replacedBy?, List.find?_append, Option.map_or]
  rfl

theorem replacedBy?_ne (section_eq : m.listings = listings ++ l :: rest) {kept : String}
    (replaced : replacedBy? listings l.task = some kept) : kept ≠ l.workflow := by
  obtain ⟨earlier, found, rfl⟩ := Option.map_eq_some_iff.1 replaced
  have same : earlier.task = l.task := by
    have tests := List.find?_some found
    rw [Bool.and_eq_true, beq_iff_eq] at tests
    exact tests.1
  have apart := m.pairwise_listings
  rw [section_eq, List.pairwise_append] at apart
  intro workflow
  exact apart.2.2 earlier (List.mem_of_find?_eq_some found) l (by simp) workflow same

theorem ReplacedAfter.replaceListing (after : ReplacedAfter m listings done)
    (section_eq : m.listings = listings ++ l :: rest) :
    ReplacedAfter m (listings ++ [l]) (replaceListing done l) := by
  obtain ⟨replaced_get?, entries_eq⟩ := after
  have decided : replacedBy? m.listings l.task =
      (replacedBy? listings l.task).or (replacedBy? (l :: rest) l.task) := by
    rw [section_eq, replacedBy?_append]
  unfold Overflow.replaceListing
  cases replaces : l.modification.replacement with
  | none =>
      constructor
      · intro task
        rw [replaced_get?, replacedBy?_append]
        simp [replacedBy?, replaces]
      · simp [entries_eq, replacementEntries, replaces]
  | some sites =>
      have own : replacedBy? (l :: rest) l.task = some l.workflow := by
        simp [replacedBy?, replaces]
      have last (task : String) :
          replacedBy? [l] task = if task = l.task then some l.workflow else none := by
        by_cases same : task = l.task
        · simp [replacedBy?, replaces, same]
        · simp [replacedBy?, same, Ne.symm same]
      rw [own] at decided
      cases earlier : replacedBy? listings l.task with
      | none =>
          rw [earlier] at decided
          rw [replaced_get?, earlier]
          constructor
          · intro task
            rw [SortedMap.get?_insert, replaced_get?, replacedBy?_append, last]
            by_cases same : task = l.task
            · simp [same, earlier]
            · simp [same]
          · simp [entries_eq, replacementEntries, replaces, decided]
      | some kept =>
          have other := replacedBy?_ne section_eq earlier
          rw [earlier] at decided
          rw [replaced_get?, earlier]
          constructor
          · intro task
            rw [replaced_get?, replacedBy?_append, last]
            by_cases same : task = l.task
            · simp [same, earlier]
            · simp [same]
          · simp [entries_eq, replacementEntries, replaces, decided, other]

theorem replacedAfter_foldl (section_eq : m.listings = listings ++ rest) :
    ReplacedAfter m listings (listings.foldl replaceListing (.empty, [])) := by
  induction listings using List.reverseRecOn generalizing rest with
  | nil => exact ⟨fun _ => rfl, rfl⟩
  | append_singleton listings l induction =>
      rw [List.append_assoc, List.singleton_append] at section_eq
      rw [List.foldl_append]
      exact (induction section_eq).replaceListing section_eq

/-- What becomes of a replacement depends on all that is asked for its task, not on the loop. -/
theorem replaceListings_eq (m : Modifications) :
    (replaceListings m.listings).2 = m.listings.flatMap (replacementEntries m.listings) :=
  (replacedAfter_foldl (List.append_nil _).symm).entries_eq

theorem get?_replaceListings (m : Modifications) (task : String) :
    (replaceListings m.listings).1.get? task = replacedBy? m.listings task :=
  (replacedAfter_foldl (List.append_nil _).symm).replaced_get? task

end Compile.Overflow

end RoutingPolicy

import RoutingPolicy.Proofs.Site.Canonical
import RoutingPolicy.Site.Group

/-!
# Groups after any number of requests

A grouping keeps two maps, the groups and the claims of the tasks, and enters a task into both or
into neither. What the claims say after a list of requests is therefore what the groups say: a task
is in the group of the whitelist that its first request with a usable site makes, and every answer
is read off the requests that came before.
-/

namespace RoutingPolicy

set_option autoImplicit false

namespace WhitelistGroups

variable {groups : WhitelistGroups} {task : String}

/-! ### Claims -/

/-- Enters a task under a whitelist, if there is one and the task has none yet. -/
def claim (groups : WhitelistGroups) (task : String) : Option Whitelist → WhitelistGroups
  | none => groups
  | some whitelist => match groups.claimed.get? task with
    | some _ => groups
    | none => ⟨groups.groups.alter whitelist fun tasks => some ((tasks.getD .empty).insert task),
        groups.claimed.insert task whitelist⟩

theorem fst_insert (groups : WhitelistGroups) (task : String) (sites : List String) :
    (groups.insert task sites).1 = groups.claim task (Whitelist.canonical? sites) := by
  rw [insert]
  cases claimed : groups.claimed.get? task <;> cases Whitelist.canonical? sites <;>
    simp [claim, claimed]

theorem get?_claimed_claim (groups : WhitelistGroups) (own : String) (added : Option Whitelist)
    (task : String) : (groups.claim own added).claimed.get? task =
      (groups.claimed.get? task).or (if own = task then added else none) := by
  cases added with
  | none => simp [claim]
  | some whitelist =>
      rw [claim]
      by_cases same : own = task
      · subst same
        cases claimed : groups.claimed.get? own <;> simp [claimed, SortedMap.get?_insert]
      · cases groups.claimed.get? own <;> simp [same, Ne.symm same, SortedMap.get?_insert]

theorem get?_claimed_insert (groups : WhitelistGroups) (own : String) (sites : List String)
    (task : String) : (groups.insert own sites).1.claimed.get? task =
      (groups.claimed.get? task).or (if own = task then Whitelist.canonical? sites else none) := by
  rw [fst_insert, get?_claimed_claim]

/-! ### The groups and the claims say the same -/

/-- The groups and the claims say the same. -/
def Consistent (groups : WhitelistGroups) : Prop :=
  ∀ task whitelist, groups.claimed.get? task = some whitelist ↔
    ∃ tasks, groups.groups.get? whitelist = some tasks ∧ task ∈ tasks

theorem consistent_empty : empty.Consistent := by
  intro task whitelist
  simp [empty]

theorem Consistent.claim (consistent : groups.Consistent) (task : String)
    (added : Option Whitelist) : (groups.claim task added).Consistent := by
  cases added with
  | none => exact consistent
  | some whitelist =>
      simp only [WhitelistGroups.claim]
      cases unclaimed : groups.claimed.get? task with
      | some existing => exact consistent
      | none =>
          intro task' whitelist'
          have before := consistent task' whitelist'
          simp only [SortedMap.get?_insert, SortedMap.get?_alter]
          by_cases own : whitelist' = whitelist
          · subst own
            simp only [if_true, Option.some.injEq, exists_eq_left', SortedSet.mem_insert]
            cases known : groups.groups.get? whitelist' with
            | none => by_cases same : task' = task <;> simp_all
            | some tasks => by_cases same : task' = task <;> simp_all
          · rw [if_neg own, ← before]
            by_cases same : task' = task
            · subst same
              simp [unclaimed, Ne.symm own]
            · rw [if_neg same]

theorem Consistent.insert (consistent : groups.Consistent) (task : String) (sites : List String) :
    (groups.insert task sites).1.Consistent := by
  rw [fst_insert]
  exact consistent.claim task _

theorem claimed_insert {task task' : String} {sites : List String} {whitelist : Whitelist}
    (claimed : (groups.insert task sites).1.claimed.get? task' = some whitelist) :
    groups.claimed.get? task' = some whitelist ∨ task' = task := by
  rw [get?_claimed_insert] at claimed
  by_cases own : task = task'
  · exact .inr own.symm
  · rw [if_neg own, Option.or_none] at claimed
    exact .inl claimed

def Inhabited (groups : WhitelistGroups) : Prop :=
  ∀ whitelist tasks, groups.groups.get? whitelist = some tasks → tasks ≠ .empty

theorem Inhabited.claim (inhabited : groups.Inhabited) (task : String)
    (added : Option Whitelist) : (groups.claim task added).Inhabited := by
  cases added with
  | none => exact inhabited
  | some own =>
      simp only [WhitelistGroups.claim]
      split
      · exact inhabited
      · intro whitelist tasks found empty
        rw [SortedMap.get?_alter] at found
        split at found
        · have entered : task ∈ tasks := by
            rw [← Option.some.inj found]
            exact SortedSet.mem_insert.2 (.inl rfl)
          rw [empty] at entered
          exact SortedSet.not_mem_empty task entered
        · exact inhabited whitelist tasks found empty

/-! ### The answer to a request -/

section Answers

variable {sites : List String} {whitelist : Whitelist}

theorem snd_insert (groups : WhitelistGroups) (task : String) (sites : List String) :
    (groups.insert task sites).2 =
      match groups.claimed.get? task, Whitelist.canonical? sites with
      | some existing, _ => .duplicate existing
      | none, none => .emptyWhitelist
      | none, some whitelist => .added whitelist := by
  rw [insert]
  cases groups.claimed.get? task <;> cases Whitelist.canonical? sites <;> rfl

theorem insert_eq_duplicate_iff :
    (groups.insert task sites).2 = .duplicate whitelist ↔
      groups.claimed.get? task = some whitelist := by
  rw [snd_insert]
  cases groups.claimed.get? task <;> cases Whitelist.canonical? sites <;> simp

theorem insert_eq_emptyWhitelist_iff :
    (groups.insert task sites).2 = .emptyWhitelist ↔
      groups.claimed.get? task = none ∧ Whitelist.canonical? sites = none := by
  rw [snd_insert]
  cases groups.claimed.get? task <;> cases Whitelist.canonical? sites <;> simp

theorem insert_eq_added_iff :
    (groups.insert task sites).2 = .added whitelist ↔
      groups.claimed.get? task = none ∧ Whitelist.canonical? sites = some whitelist := by
  rw [snd_insert]
  cases groups.claimed.get? task <;> cases Whitelist.canonical? sites <;> simp

theorem fst_insert_eq_self
    (refused : ∀ whitelist, (groups.insert task sites).2 ≠ .added whitelist) :
    (groups.insert task sites).1 = groups := by
  simp only [ne_eq, insert_eq_added_iff, not_and] at refused
  rw [fst_insert]
  cases made : Whitelist.canonical? sites with
  | none => rfl
  | some whitelist =>
      cases claimed : groups.claimed.get? task with
      | none => exact absurd made (refused whitelist claimed)
      | some existing => rw [claim, claimed]

end Answers

/-! ### Requests one after the other -/

/-- The grouping that a list of requests makes, each of a task and its sites. -/
def insertAll (requests : List (String × List String)) : WhitelistGroups :=
  requests.foldl (fun groups request => (groups.insert request.1 request.2).1) .empty

def Usable (sites : List String) : Prop := ∃ site ∈ sites, Text.trim site ≠ ""

/-- The first request for the task with a usable site is the one with these sites. -/
def Decides (requests : List (String × List String)) (task : String) (sites : List String) : Prop :=
  ∃ earlier later, requests = earlier ++ (task, sites) :: later ∧ Usable sites ∧
    ∀ request ∈ earlier, request.1 = task → ¬ Usable request.2

def firstKey? (requests : List (String × List String)) (task : String) : Option Whitelist :=
  requests.findSome? fun request =>
    if request.1 = task then Whitelist.canonical? request.2 else none

section Requests

variable {requests : List (String × List String)} {sites : List String} {whitelist : Whitelist}

theorem canonical?_eq_none_iff_not_usable : Whitelist.canonical? sites = none ↔ ¬ Usable sites := by
  rw [Whitelist.canonical?_eq_none_iff, Whitelist.forall_not_isMember_iff, Usable]
  push Not
  rfl

theorem Decides.exists_canonical? (decides : Decides requests task sites) :
    ∃ whitelist, Whitelist.canonical? sites = some whitelist := by
  obtain ⟨_, _, _, usable, _⟩ := decides
  rw [← Option.isSome_iff_exists, Option.isSome_iff_ne_none, ne_eq,
    canonical?_eq_none_iff_not_usable, not_not]
  exact usable

theorem usable_of_canonical? (made : Whitelist.canonical? sites = some whitelist) :
    Usable sites := by
  by_contra unusable
  rw [canonical?_eq_none_iff_not_usable.2 unusable] at made
  cases made

theorem firstKey?_eq_some_iff : firstKey? requests task = some whitelist ↔
    ∃ sites, Decides requests task sites ∧ Whitelist.canonical? sites = some whitelist := by
  rw [firstKey?, List.findSome?_eq_some_iff]
  constructor
  · rintro ⟨earlier, ⟨task', sites⟩, later, rfl, decided, passed⟩
    obtain ⟨rfl, made⟩ := Option.ite_none_right_eq_some.1 decided
    refine ⟨sites, ⟨earlier, later, rfl, usable_of_canonical? made, ?_⟩, made⟩
    intro request before own
    rw [← canonical?_eq_none_iff_not_usable, ← passed request before, if_pos own]
  · rintro ⟨sites, ⟨earlier, later, rfl, -, passed⟩, made⟩
    refine ⟨earlier, (task, sites), later, rfl, by rw [if_pos rfl, made], ?_⟩
    intro request before
    split
    · next own => exact canonical?_eq_none_iff_not_usable.2 (passed request before own)
    · rfl

theorem firstKey?_eq_none_iff : firstKey? requests task = none ↔
    ∀ sites, ¬ Decides requests task sites := by
  rw [Option.eq_none_iff_forall_ne_some]
  constructor
  · intro nothing sites decides
    obtain ⟨whitelist, made⟩ := decides.exists_canonical?
    exact nothing whitelist (firstKey?_eq_some_iff.2 ⟨sites, decides, made⟩)
  · intro nothing whitelist found
    obtain ⟨sites, decides, _⟩ := firstKey?_eq_some_iff.1 found
    exact nothing sites decides

/-- What holds of a grouping after the requests. -/
structure Records (groups : WhitelistGroups) (requests : List (String × List String)) : Prop where
  claims : ∀ task, groups.claimed.get? task = firstKey? requests task
  consistent : groups.Consistent
  inhabited : groups.Inhabited

theorem records_empty : Records empty [] where
  claims _ := rfl
  consistent := consistent_empty
  inhabited := by simp [Inhabited, empty]

theorem Records.insert (records : Records groups requests) (task : String) (sites : List String) :
    Records (groups.insert task sites).1 (requests ++ [(task, sites)]) where
  claims task' := by
    rw [get?_claimed_insert, records.claims, firstKey?, firstKey?, List.findSome?_append,
      List.findSome?_singleton]
  consistent := records.consistent.insert task sites
  inhabited := by
    rw [fst_insert]
    exact records.inhabited.claim task _

theorem records_insertAll (requests : List (String × List String)) :
    Records (insertAll requests) requests := by
  -- From the end, since the last request is the one that is made on the grouping of the others.
  induction requests using List.reverseRecOn with
  | nil => exact records_empty
  | append_singleton requests request records =>
      rw [insertAll, List.foldl_append]
      exact records.insert request.1 request.2

def Holds (groups : WhitelistGroups) (whitelist : Whitelist) (task : String) : Prop :=
  ∃ group ∈ groups.groups.entries, group.1 = whitelist ∧ task ∈ group.2

theorem holds_iff : groups.Holds whitelist task ↔
    ∃ tasks, groups.groups.get? whitelist = some tasks ∧ task ∈ tasks := by
  constructor
  · rintro ⟨⟨_, tasks⟩, listed, rfl, member⟩
    exact ⟨tasks, SortedMap.get?_eq_some_iff.2 listed, member⟩
  · rintro ⟨tasks, found, member⟩
    exact ⟨(whitelist, tasks), SortedMap.get?_eq_some_iff.1 found, rfl, member⟩

theorem Records.holds_iff (records : Records groups requests) : groups.Holds whitelist task ↔
    ∃ sites, Decides requests task sites ∧ Whitelist.canonical? sites = some whitelist := by
  rw [WhitelistGroups.holds_iff, ← records.consistent, records.claims, firstKey?_eq_some_iff]

theorem Records.apart (records : Records groups requests)
    {group group' : Whitelist × SortedSet String}
    (listed : group ∈ groups.groups.entries) (listed' : group' ∈ groups.groups.entries)
    (member : task ∈ group.2) (member' : task ∈ group'.2) : group = group' := by
  have found := SortedMap.get?_eq_some_iff.2 listed
  have found' := SortedMap.get?_eq_some_iff.2 listed'
  have claimed := (records.consistent task group.1).2 ⟨group.2, found, member⟩
  have claimed' := (records.consistent task group'.1).2 ⟨group'.2, found', member'⟩
  have keys : group.1 = group'.1 := Option.some.inj (claimed.symm.trans claimed')
  rw [keys, found'] at found
  exact Prod.ext keys (Option.some.inj found).symm

theorem Records.together_iff (records : Records groups requests) {task' : String} :
    (∃ group ∈ groups.groups.entries, task ∈ group.2 ∧ task' ∈ group.2) ↔
      ∃ sites sites', Decides requests task sites ∧ Decides requests task' sites' ∧
        Whitelist.canonical? sites = Whitelist.canonical? sites' := by
  constructor
  · rintro ⟨group, listed, member, member'⟩
    obtain ⟨sites, decides, made⟩ := records.holds_iff.1 ⟨group, listed, rfl, member⟩
    obtain ⟨sites', decides', made'⟩ := records.holds_iff.1 ⟨group, listed, rfl, member'⟩
    exact ⟨sites, sites', decides, decides', made.trans made'.symm⟩
  · rintro ⟨sites, sites', decides, decides', same⟩
    obtain ⟨whitelist, made⟩ := decides.exists_canonical?
    obtain ⟨tasks, found, member⟩ :=
      WhitelistGroups.holds_iff.1 (records.holds_iff.2 ⟨sites, decides, made⟩)
    obtain ⟨tasks', found', member'⟩ :=
      WhitelistGroups.holds_iff.1 (records.holds_iff.2 ⟨sites', decides', same.symm.trans made⟩)
    obtain rfl : tasks = tasks' := Option.some.inj (found.symm.trans found')
    exact ⟨(whitelist, tasks), SortedMap.get?_eq_some_iff.1 found, member, member'⟩

/-- The groups, and the answers to the next request, are told by the requests that were made. -/
structure Reflects (groups : WhitelistGroups) (requests : List (String × List String)) : Prop where
  nonempty : ∀ group ∈ groups.groups.entries, ∃ task, task ∈ group.2
  apart : ∀ group ∈ groups.groups.entries, ∀ group' ∈ groups.groups.entries, ∀ task,
    task ∈ group.2 → task ∈ group'.2 → group = group'
  /-- The first request with a usable site decides on the group of a task. -/
  holds_iff : ∀ whitelist task, groups.Holds whitelist task ↔
    ∃ sites, Decides requests task sites ∧ Whitelist.canonical? sites = some whitelist
  /-- Two tasks are together if the sites that decide make the same whitelist. -/
  together_iff : ∀ task task',
    (∃ group ∈ groups.groups.entries, task ∈ group.2 ∧ task' ∈ group.2) ↔
      ∃ sites sites', Decides requests task sites ∧ Decides requests task' sites' ∧
        Whitelist.canonical? sites = Whitelist.canonical? sites'
  duplicate_iff : ∀ task sites whitelist,
    (groups.insert task sites).2 = .duplicate whitelist ↔
      ∃ sites', Decides requests task sites' ∧ Whitelist.canonical? sites' = some whitelist
  emptyWhitelist_iff : ∀ task sites, (groups.insert task sites).2 = .emptyWhitelist ↔
    (∀ sites', ¬ Decides requests task sites') ∧ ¬ Usable sites
  added_iff : ∀ task sites whitelist, (groups.insert task sites).2 = .added whitelist ↔
    (∀ sites', ¬ Decides requests task sites') ∧ Whitelist.canonical? sites = some whitelist
  unchanged : ∀ task sites, (∀ whitelist, (groups.insert task sites).2 ≠ .added whitelist) →
    (groups.insert task sites).1 = groups

theorem Records.reflects (records : Records groups requests) : Reflects groups requests where
  nonempty := by
    rintro ⟨whitelist, tasks⟩ listed
    by_contra nothing
    exact records.inhabited whitelist tasks (SortedMap.get?_eq_some_iff.2 listed)
      (SortedSet.ext fun task => by simpa using fun member => nothing ⟨task, member⟩)
  apart _ listed _ listed' _ member member' := records.apart listed listed' member member'
  holds_iff _ _ := records.holds_iff
  together_iff _ _ := records.together_iff
  duplicate_iff _ _ _ := by
    rw [insert_eq_duplicate_iff, records.claims, firstKey?_eq_some_iff]
  emptyWhitelist_iff _ _ := by
    rw [insert_eq_emptyWhitelist_iff, records.claims, firstKey?_eq_none_iff,
      canonical?_eq_none_iff_not_usable]
  added_iff _ _ _ := by
    rw [insert_eq_added_iff, records.claims, firstKey?_eq_none_iff]
  unchanged _ _ refused := fst_insert_eq_self refused

/-- Whatever requests were made, in whatever order, the grouping is told by them. -/
theorem reflects_insertAll (requests : List (String × List String)) :
    Reflects (insertAll requests) requests :=
  (records_insertAll requests).reflects

/-- A request without a usable site decides nothing, and no more does a second one for a task. -/
example :
    let requests :=
      [("taskA", ["T2_X"]), ("taskB", [" "]), ("taskA", ["T2_Y"]), ("taskB", ["T2_X "])]
    (insertAll requests).groups.entries.map (fun group => (group.1.text, group.2.toList)) =
      [("T2_X", ["taskA", "taskB"])] := by
  decide +kernel

end Requests

end WhitelistGroups

end RoutingPolicy

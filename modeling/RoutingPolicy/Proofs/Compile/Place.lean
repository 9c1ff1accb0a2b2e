import RoutingPolicy.Proofs.Compile.Rules
import RoutingPolicy.Proofs.Site.Groups

/-!
# The place of a task in a category

In a category that is keyed by tasks, every task has one place at most: the lowest threshold that
lists it, the way in which it is resized, or a whitelist, which the task replaces or shares with the
group that claimed it. Groups are built entry by entry together with the claims of their tasks, so
both always say the same, and a task whose whitelist is replaced is claimed by no group.
-/

namespace RoutingPolicy

set_option autoImplicit false

open Compile.Overflow

/-- What a category has decided on a task. -/
inductive TaskPlace where
  | threshold (threshold : Int64)
  | resized (policy : ResizePolicy)
  | replaced
  | group (whitelist : Whitelist)

/-! ### Thresholds and resizing -/

theorem ThresholdMap.lowest?_eq_some_iff {thresholds : ThresholdMap} {task : String}
    {threshold : Int64} :
    thresholds.lowest? task = some threshold ↔
      ∃ group ∈ thresholds.toList, group.1 = threshold ∧
        task ∈ Tuning.selected thresholds group.1 group.2 := by
  constructor
  · intro lowest
    rcases Option.map_eq_some_iff.1 lowest with ⟨group, found, own⟩
    have listed : task ∈ group.2 := by
      simpa using List.find?_some found
    refine ⟨group, List.mem_of_find?_eq_some found, own, ?_⟩
    rw [Tuning.selected, List.mem_filter, beq_iff_eq, own]
    exact ⟨listed, lowest⟩
  · rintro ⟨group, _, rfl, selected⟩
    rw [Tuning.selected, List.mem_filter, beq_iff_eq] at selected
    exact selected.2

namespace ResizePolicy

theorem mem_foldl_group (pairs : List (String × ResizePolicy)) (policy : ResizePolicy)
    (task : String) (groups : SortedMap ResizePolicy (List String)) :
    (∃ tasks, (pairs.foldl (fun groups (task, policy) =>
        groups.alter policy fun known => some (known.getD [] ++ [task])) groups).get? policy =
          some tasks ∧ task ∈ tasks) ↔
      (∃ tasks, groups.get? policy = some tasks ∧ task ∈ tasks) ∨ (task, policy) ∈ pairs := by
  induction pairs generalizing groups with
  | nil => simp
  | cons pair rest induction =>
      rcases pair with ⟨task', policy'⟩
      rw [List.foldl_cons, induction, List.mem_cons, Prod.mk.injEq, ← or_assoc]
      apply or_congr_left
      rw [SortedMap.get?_alter]
      by_cases same : policy = policy'
      · subst same
        cases known : groups.get? policy <;> simp
      · simp [same]

theorem exists_mem_group_iff {resizing : SortedMap String ResizePolicy} {policy : ResizePolicy}
    {task : String} :
    (∃ entry ∈ (group resizing).entries, entry.1 = policy ∧ task ∈ entry.2) ↔
      resizing.get? task = some policy := by
  have grouped := mem_foldl_group resizing.entries policy task .empty
  rw [SortedMap.get?_eq_some_iff]
  simp only [SortedMap.get?_empty, reduceCtorEq, false_and, exists_false, false_or] at grouped
  rw [← grouped]
  constructor
  · rintro ⟨⟨_, tasks⟩, listed, rfl, member⟩
    exact ⟨tasks, SortedMap.get?_eq_some_iff.2 listed, member⟩
  · rintro ⟨tasks, found, member⟩
    exact ⟨(policy, tasks), SortedMap.get?_eq_some_iff.1 found, rfl, member⟩

end ResizePolicy

/-! ### Whitelists -/

namespace Overflow

/-- What a modification does to the groups: nothing, or it enters a task that is not replaced. -/
theorem addListing_cases (replaced : SortedMap String String) (groups : WhitelistGroups)
    (l : Listing) :
    (addListing replaced groups l).1 = groups ∨
      replaced.get? l.task = none ∧
        ∃ sites, (addListing replaced groups l).1 = (groups.insert l.task sites).1 := by
  simp only [addListing]
  split
  · next sites _ added =>
      split
      · exact .inl rfl
      · next unreplaced =>
          refine .inr ⟨by simpa [SortedMap.contains] using unreplaced,
            (validSites (Text.nonblank sites)).map (·.text), ?_⟩
          split <;> simp_all
  · exact .inl rfl

/-- The claims that come from modifications are consistent, and none is of a replaced task. -/
theorem addListings_claims {replaced : SortedMap String String} {rest : List Listing}
    {groups : WhitelistGroups}
    (consistent : groups.Consistent)
    (unreplaced : ∀ task whitelist, groups.claimed.get? task = some whitelist →
      replaced.get? task = none) :
    (addListings replaced groups rest).1.Consistent ∧
      ∀ task whitelist, (addListings replaced groups rest).1.claimed.get? task = some whitelist →
        replaced.get? task = none := by
  induction rest generalizing groups with
  | nil => exact ⟨consistent, unreplaced⟩
  | cons l rest induction =>
      simp only [addListings]
      apply induction
      · rcases addListing_cases replaced groups l with same | ⟨_, sites, entered⟩
        · rw [same]
          exact consistent
        · rw [entered]
          exact consistent.insert l.task sites
      · intro task whitelist claimed
        rcases addListing_cases replaced groups l with same | ⟨free, sites, entered⟩
        · rw [same] at claimed
          exact unreplaced task whitelist claimed
        · rw [entered] at claimed
          rcases WhitelistGroups.claimed_insert claimed with before | rfl
          · exact unreplaced task whitelist before
          · exact free

variable {o : Overflow} {task : String}

def claims (o : Overflow) : WhitelistGroups :=
  (addListings o.replaced .empty o.modifications.listings).1

def destinations (o : Overflow) : DestinationMap :=
  DestinationMap.invert (checkedMapping o.reversedMapping)

theorem consistent_claims (o : Overflow) : o.claims.Consistent :=
  (addListings_claims WhitelistGroups.consistent_empty fun task whitelist claimed => by
    simp [WhitelistGroups.empty] at claimed).1

theorem replacedBy?_of_claimed {whitelist : Whitelist}
    (claimed : o.claims.claimed.get? task = some whitelist) :
    replacedBy? o.modifications.listings task = none := by
  rw [← get?_replaceListings]
  exact (addListings_claims WhitelistGroups.consistent_empty fun task whitelist claimed => by
    simp [WhitelistGroups.empty] at claimed).2 task whitelist claimed

def replaces (o : Overflow) (task : String) : Bool :=
  o.modifications.listings.any fun l => l.task == task && (o.replacementRule? l).isSome

def groupOf? (o : Overflow) (task : String) : Option Whitelist :=
  (o.claims.claimed.get? task).filter fun whitelist => !(o.destinations.scoped whitelist).isEmpty

def place? (o : Overflow) (task : String) : Option TaskPlace :=
  if o.replaces task then some .replaced else (o.groupOf? task).map .group

theorem replaces_eq_false_of_groupOf? {whitelist : Whitelist}
    (grouped : o.groupOf? task = some whitelist) : o.replaces task = false := by
  have claimed := (Option.filter_eq_some_iff.1 grouped).1
  have free := replacedBy?_of_claimed claimed
  rw [replaces, List.any_eq_false]
  intro l _ made
  rcases Bool.and_eq_true_iff.1 made with ⟨same, some⟩
  obtain rfl := beq_iff_eq.1 same
  simp only [replacementRule?, free, reduceCtorEq, false_and, if_false] at some
  split at some <;> cases some

theorem of_place?_eq_some {place : TaskPlace} (placed : o.place? task = some place) :
    (place = .replaced ∧ o.replaces task = true) ∨
      ∃ whitelist, place = .group whitelist ∧ o.groupOf? task = some whitelist := by
  rw [place?] at placed
  split at placed
  · next replaced => exact .inl ⟨(Option.some.inj placed).symm, replaced⟩
  · rcases Option.map_eq_some_iff.1 placed with ⟨whitelist, grouped, rfl⟩
    exact .inr ⟨whitelist, rfl, grouped⟩

theorem place?_of_replaces (replaced : o.replaces task = true) :
    o.place? task = some .replaced := by
  rw [place?, if_pos replaced]

theorem place?_of_groupOf? {whitelist : Whitelist} (grouped : o.groupOf? task = some whitelist) :
    o.place? task = some (.group whitelist) := by
  simp [place?, replaces_eq_false_of_groupOf? grouped, grouped]

end Overflow

namespace Policy

def place? (p : Policy) (category : Category) (task : String) : Option TaskPlace :=
  match category with
  | .overflow => p.overflow.place? task
  | .memory => (p.memory.lowest? task).map .threshold
  | .time => (p.time.lowest? task).map .threshold
  | .slope => (p.slope.lowest? task).map .threshold
  | .resize => (p.resizing.get? task).map .resized
  | .read => (p.read.lowest? task).map .threshold
  | _ => none

end Policy

end RoutingPolicy

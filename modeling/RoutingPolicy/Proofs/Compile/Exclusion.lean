import RoutingPolicy.Proofs.Compile.Place
import RoutingPolicy.Proofs.Compile.Writes

/-!
# When rules of one category exclude each other

Selectors disregard the case of tasks, while thresholds, resizing and groups tell tasks apart by
case. So two rules of one category can match one job, and they do exactly where two tasks that
differ in case only have different places. A rule is known here from the names of tasks that it
serves: it matches no job of another task, and it matches the job of a task that carries nothing
else.
-/

namespace RoutingPolicy

set_option autoImplicit false

open Compile.Overflow

/-! ### Rules that never match together -/

namespace Rule

def NeverBoth (r r' : Rule) : Prop := ∀ ad, ¬ (r.matchesAd ad = true ∧ r'.matchesAd ad = true)

instance : Std.Symm NeverBoth where
  symm _ _ never ad both := never ad ⟨both.2, both.1⟩

/-- At most one rule of a list matches an ad, whatever the ad, if no two of them match together. -/
theorem countP_matchesAd_le_one_iff {rules : List Rule} :
    (∀ ad, rules.countP (·.matchesAd ad) ≤ 1) ↔ rules.Pairwise NeverBoth := by
  induction rules with
  | nil => simp
  | cons r rest induction =>
      rw [List.pairwise_cons, ← induction]
      constructor
      · intro few
        constructor
        · intro r' member ad both
          have counted := few ad
          have more : 0 < rest.countP (·.matchesAd ad) := List.countP_pos_iff.2 ⟨r', member, both.2⟩
          rw [List.countP_cons, if_pos both.1] at counted
          omega
        · intro ad
          exact (List.sublist_cons_self r rest).countP_le.trans (few ad)
      · rintro ⟨apart, few⟩ ad
        by_cases fits : r.matchesAd ad = true
        · have none : rest.countP (·.matchesAd ad) = 0 := by
            rw [List.countP_eq_zero]
            intro r' member fits'
            exact apart r' member ad ⟨fits, fits'⟩
          rw [List.countP_cons, if_pos fits, none]
        · rw [List.countP_cons, if_neg fits]
          exact few ad

end Rule

/-! ### The tasks that a rule serves -/

def taskJob (task : String) : JobAd :=
  (JobAd.empty.assign Attribute.subtaskName (.str task)).assign Marker.resizeJob (.bool false)

theorem evalAttr_taskJob_task (task : String) :
    (taskJob task).evalAttr Attribute.subtaskName = .str task := by
  have resizing : (Marker.resizeJob, [Family.resize]) ∈ Family.writers := by
    simp [Family.writers]
  apply JobAd.evalAttr_of_lit
  rw [taskJob, JobAd.get?_assign, if_neg (Family.foldCase_subtaskName_ne resizing),
    JobAd.get?_assign, if_pos rfl]

theorem evalAttr_taskJob_resize (task : String) :
    (taskJob task).evalAttr Marker.resizeJob = .bool false := by
  apply JobAd.evalAttr_of_lit
  rw [taskJob, JobAd.get?_assign, if_pos rfl]

theorem evalAttr_taskJob_other {task name : String} {f : Family} {families : List Family}
    (known : (name, families) ∈ Family.writers) (own : f ∈ families) (other : f ≠ .resize) :
    (taskJob task).evalAttr name = .undefined := by
  have resizing : (Marker.resizeJob, [Family.resize]) ∈ Family.writers := by
    simp [Family.writers]
  have named : (Attribute.subtaskName, []) ∈ Family.writers := by
    simp [Family.writers]
  have unsized := Family.apart_writers known resizing own (by simpa using other)
  have unnamed := Family.apart_writers known named own List.not_mem_nil
  rw [Text.sameIgnoringCase_eq_false_iff] at unsized unnamed
  apply JobAd.evalAttr_of_unbound
  rw [taskJob, JobAd.get?_assign, if_neg unsized, JobAd.get?_assign, if_neg unnamed]
  rfl

def Spells (tasks : List String) (task : String) : Prop :=
  ∃ listed ∈ tasks, Text.sameIgnoringCase task listed = true

namespace Rule

/-- The rule matches jobs of the given tasks only, and the job of such a task that carries nothing
else. -/
structure Serves (r : Rule) (tasks : String → Prop) : Prop where
  named : ∀ ad, r.matchesAd ad = true →
    ∃ task, ad.evalAttr Attribute.subtaskName = .str task ∧ tasks task
  fits : ∀ task, tasks task → r.matchesAd (taskJob task) = true

variable {r r' : Rule} {tasks tasks' : String → Prop}

theorem Serves.neverBoth_iff (serves : r.Serves tasks) (serves' : r'.Serves tasks') :
    NeverBoth r r' ↔ ∀ task, ¬ (tasks task ∧ tasks' task) := by
  constructor
  · intro never task ⟨own, own'⟩
    exact never (taskJob task) ⟨serves.fits task own, serves'.fits task own'⟩
  · intro apart ad ⟨fits, fits'⟩
    rcases serves.named ad fits with ⟨task, read, own⟩
    rcases serves'.named ad fits' with ⟨task', read', own'⟩
    rw [read] at read'
    cases read'
    exact apart task ⟨own, own'⟩

theorem serves_of_selector {listed : List String} {selector : Expr}
    (selects : Expr.memberOf? (.plain Attribute.subtaskName) listed = some selector)
    (member : selector ∈ r.guard.clauses)
    (ready : ∀ task, ∀ clause ∈ r.guard.clauses,
      clause = selector ∨ (taskJob task).eval clause = .bool true) :
    r.Serves (Spells listed) where
  named := by
    intro ad fits
    have named := exists_of_selector selects member fits
    exact named
  fits := by
    intro task own
    apply Guard.holds_iff.2
    intro clause listed
    rcases ready task clause listed with rfl | holds
    · exact (Expr.eval_memberOf?_iff selects).2 ⟨task, evalAttr_taskJob_task task, own⟩
    · exact holds

theorem flagIsNotTrue_taskJob {task flag : String} {f : Family} {families : List Family}
    (known : (flag, families) ∈ Family.writers) (own : f ∈ families) (other : f ≠ .resize) :
    (taskJob task).eval (.flagIsNotTrue (.plain flag)) = .bool true := by
  rw [JobAd.eval_flagIsNotTrue, AttrRef.plain, evalAttr_taskJob_other known own other]
  rfl

end Rule

theorem Tuning.serves_rule {t : Tuning} {threshold : Int64} {listed : List String} {selector : Expr}
    (known : t ∈ [memory, time, slope, read])
    (selects : Expr.memberOf? (.plain Attribute.subtaskName) listed = some selector) :
    (t.rule threshold selector).Serves (Spells listed) := by
  have written : ∃ f families, f ≠ .resize ∧ f ∈ families ∧ (t.marker, [f]) ∈ Family.writers ∧
      (t.attr, families) ∈ Family.writers := by
    simp only [List.mem_cons, List.not_mem_nil, or_false] at known
    rcases known with rfl | rfl | rfl | rfl
    · exact ⟨.memory, [.memory, .memoryFix, .t0Memory], by simp [Family.writers, memory]⟩
    · exact ⟨.time, [.time, .wallTime], by simp [Family.writers, time]⟩
    · exact ⟨.slope, [.slope, .resize], by simp [Family.writers, slope]⟩
    · exact ⟨.read, [.read], by simp [Family.writers, read]⟩
  rcases written with ⟨f, families, other, own, marker, attr⟩
  apply Rule.serves_of_selector selects List.mem_cons_self
  intro task clause member
  simp only [rule, Rule.make, List.mem_cons, List.not_mem_nil, or_false] at member
  rcases member with rfl | rfl | rfl
  · exact .inl rfl
  · exact .inr (Rule.flagIsNotTrue_taskJob marker List.mem_cons_self other)
  · right
    rw [JobAd.eval_compareTo, AttrRef.plain, evalAttr_taskJob_other attr own other]
    rfl

theorem ResizePolicy.serves_rule {policy : ResizePolicy} {listed : List String} {selector : Expr}
    (selects : Expr.memberOf? (.plain Attribute.subtaskName) listed = some selector) :
    (policy.rule selector).Serves (Spells listed) := by
  apply Rule.serves_of_selector selects (List.mem_cons_of_mem _ List.mem_cons_self)
  intro task clause member
  simp only [rule, Rule.make, List.mem_cons, List.not_mem_nil, or_false] at member
  rcases member with rfl | rfl
  · right
    rw [JobAd.eval_compareTo, AttrRef.target, evalAttr_taskJob_resize]
    rfl
  · exact .inl rfl

namespace Compile.Overflow

theorem serves_masterRule {group : SiteMapGroup} {listed : List String} {selector : Expr}
    (selects : Expr.memberOf? (.plain Attribute.subtaskName) listed = some selector) :
    (masterRule group selector).Serves (Spells listed) := by
  apply Rule.serves_of_selector selects List.mem_cons_self
  intro task clause member
  simp only [masterRule, Rule.make, List.mem_cons, List.not_mem_nil, or_false] at member
  rcases member with rfl | rfl
  · exact .inl rfl
  · right
    have marker : (Marker.hasBeenRoutedOverflow, [Family.master]) ∈ Family.writers := by
      simp [Family.writers]
    exact Rule.flagIsNotTrue_taskJob marker List.mem_cons_self (by decide)

theorem serves_replacementRule (task : String) (sites : List SiteName) :
    (replacementRule task sites).Serves (· = task) where
  named := by
    intro ad fits
    have clause : Expr.compareTo .identical (.plain Attribute.subtaskName) (.str task) ∈
        (replacementRule task sites).guard.clauses := by
      simp [replacementRule, Rule.make]
    have same := Guard.holds_iff.1 fits _ clause
    rw [JobAd.eval_compareTo, Comparison.apply, Value.bool.injEq, Value.identical_str_iff] at same
    exact ⟨task, same, rfl⟩
  fits := by
    rintro _ rfl
    apply Guard.holds_iff.2
    intro clause member
    simp only [replacementRule, Rule.make, List.mem_cons, List.not_mem_nil, or_false] at member
    rcases member with rfl | rfl
    · have marker : (Marker.hasBeenReplaced, [Family.replacement]) ∈ Family.writers := by
        simp [Family.writers]
      exact Rule.flagIsNotTrue_taskJob marker List.mem_cons_self (by decide)
    · rw [JobAd.eval_compareTo, AttrRef.plain, evalAttr_taskJob_task]
      simp [Comparison.apply, Value.identical]

end Compile.Overflow

/-! ### Items with keys -/

section Keyed

variable {Item Key : Type} {items : List Item} {rule? : Item → Option Rule} {key : Item → Key}
  {tasks : Item → List String} {place? : String → Option Key}

/-- Rules that come from items with different keys exclude each other exactly if tasks that differ
in case only are listed under the same key. -/
theorem pairwise_filterMap_neverBoth_iff (distinct : items.Pairwise fun i j => key i ≠ key j)
    (serves : ∀ i ∈ items, ∀ r, rule? i = some r → r.Serves (Spells (tasks i)))
    (made : ∀ i ∈ items, ∀ task ∈ tasks i, ∃ r, rule? i = some r)
    (placed : ∀ task k, place? task = some k ↔ ∃ i ∈ items, key i = k ∧ task ∈ tasks i) :
    (items.filterMap rule?).Pairwise Rule.NeverBoth ↔
      ∀ task task', Text.sameIgnoringCase task task' = true →
        ∀ k k', place? task = some k → place? task' = some k' → k = k' := by
  rw [List.pairwise_filterMap]
  constructor
  · intro apart task task' same k k' own own'
    rcases (placed task k).1 own with ⟨i, listed, rfl, member⟩
    rcases (placed task' k').1 own' with ⟨j, listed', rfl, member'⟩
    by_contra different
    rcases made i listed task member with ⟨r, made_i⟩
    rcases made j listed' task' member' with ⟨r', made_j⟩
    have symmetric : Std.Symm fun i j => ∀ r, rule? i = some r → ∀ r', rule? j = some r' →
        Rule.NeverBoth r r' :=
      ⟨fun i j never r made r' made' => symm (never r' made' r made)⟩
    have never := apart.forall listed listed' (fun equal => different (congrArg key equal))
      r made_i r' made_j
    rw [(serves i listed r made_i).neverBoth_iff (serves j listed' r' made_j)] at never
    exact never task ⟨⟨task, member, Text.sameIgnoringCase_refl task⟩, ⟨task', member', same⟩⟩
  · intro together
    apply distinct.imp_of_mem
    intro i j listed listed' different r made_i r' made_j
    rw [(serves i listed r made_i).neverBoth_iff (serves j listed' r' made_j)]
    rintro name ⟨⟨task, member, same⟩, ⟨task', member', same'⟩⟩
    have alike : Text.sameIgnoringCase task task' = true := by
      rw [Text.sameIgnoringCase_iff] at *
      rw [← same, same']
    exact different (together task task' alike _ _ ((placed task _).2 ⟨i, listed, rfl, member⟩)
      ((placed task' _).2 ⟨j, listed', rfl, member'⟩))

end Keyed

/-! ### Categories with one kind of rules -/

theorem exists_of_mem {tasks : List String} {task : String} (member : task ∈ tasks)
    (rule : Expr → Rule) :
    ∃ r, (Expr.memberOf? (.plain Attribute.subtaskName) tasks).map rule = some r := by
  cases selects : Expr.memberOf? (.plain Attribute.subtaskName) tasks with
  | none =>
      rw [Expr.memberOf?_eq_none_iff.1 selects] at member
      cases member
  | some selector => exact ⟨rule selector, rfl⟩

theorem Tuning.pairwise_neverBoth_iff {t : Tuning} (known : t ∈ [memory, time, slope, read])
    (thresholds : ThresholdMap) :
    (Compiled.rules (t.compile thresholds)).Pairwise Rule.NeverBoth ↔
      ∀ task task', Text.sameIgnoringCase task task' = true →
        ∀ k k', thresholds.lowest? task = some k → thresholds.lowest? task' = some k' → k = k' := by
  rw [rules_compile]
  apply pairwise_filterMap_neverBoth_iff thresholds.groups.distinct_keys _ _
    fun task k => ThresholdMap.lowest?_eq_some_iff
  · intro group _ r made
    rcases Option.map_eq_some_iff.1 made with ⟨selector, selects, rfl⟩
    exact serves_rule known selects
  · intro group _ task member
    exact exists_of_mem member (t.rule group.1)

theorem ResizePolicy.pairwise_neverBoth_iff (resizing : SortedMap String ResizePolicy) :
    (Compiled.rules (compile resizing)).Pairwise Rule.NeverBoth ↔
      ∀ task task', Text.sameIgnoringCase task task' = true →
        ∀ k k', resizing.get? task = some k → resizing.get? task' = some k' → k = k' := by
  rw [rules_compile]
  apply pairwise_filterMap_neverBoth_iff (group resizing).distinct_keys _ _
    fun task k => exists_mem_group_iff.symm
  · intro group _ r made
    rcases Option.map_eq_some_iff.1 made with ⟨selector, selects, rfl⟩
    exact serves_rule selects
  · intro group _ task member
    exact exists_of_mem member group.1.rule

/-! ### Overflow -/

namespace Overflow

variable {o : Overflow}

theorem of_replacementRule?_eq_some {l : Listing} {r : Rule}
    (made : o.replacementRule? l = some r) :
    replacedBy? o.modifications.listings l.task = some l.workflow ∧
      r.Serves (· = l.task) := by
  simp only [replacementRule?] at made
  split at made
  · cases made
  · split at made
    · next first =>
        obtain rfl := Option.some.inj made
        exact ⟨first.1, serves_replacementRule l.task _⟩
    · cases made

theorem pairwise_replacementRule? (o : Overflow) :
    (o.modifications.listings.filterMap o.replacementRule?).Pairwise Rule.NeverBoth := by
  rw [List.pairwise_filterMap]
  apply o.modifications.pairwise_listings.imp
  intro l l' different r made r' made'
  rcases of_replacementRule?_eq_some made with ⟨first, serves⟩
  rcases of_replacementRule?_eq_some made' with ⟨first', serves'⟩
  rw [serves.neverBoth_iff serves']
  rintro task ⟨own, own'⟩
  have same : l.task = l'.task := own.symm.trans own'
  rw [← same, first, Option.some.injEq] at first'
  exact different first' same

def served (group : SiteMapGroup) : List String :=
  if group.mapping.isEmpty then [] else group.tasks.toList

theorem mem_groups_iff {group : SiteMapGroup} :
    group ∈ o.groups ↔ o.claims.groups.get? group.whitelist = some group.tasks ∧
      group.mapping = o.destinations.scoped group.whitelist := by
  rw [SortedMap.get?_eq_some_iff]
  constructor
  · intro listed
    rcases List.mem_map.1 listed with ⟨⟨whitelist, tasks⟩, member, rfl⟩
    exact ⟨member, rfl⟩
  · intro both
    rcases both with ⟨member, mapped⟩
    rcases group with ⟨whitelist, tasks, mapping⟩
    have own : mapping = o.destinations.scoped whitelist := mapped
    subst own
    exact List.mem_map_of_mem member

theorem groupOf?_eq_some_iff {task : String} {whitelist : Whitelist} :
    o.groupOf? task = some whitelist ↔
      ∃ group ∈ o.groups, group.whitelist = whitelist ∧ task ∈ served group := by
  rw [groupOf?, Option.filter_eq_some_iff, o.consistent_claims task whitelist]
  constructor
  · intro grouped
    rcases grouped with ⟨⟨tasks, found, member⟩, mapped⟩
    refine ⟨⟨whitelist, tasks, o.destinations.scoped whitelist⟩, ?_, rfl, ?_⟩
    · exact mem_groups_iff.2 ⟨found, rfl⟩
    · rw [served, if_neg (by simpa using mapped)]
      exact member
  · intro ruled
    rcases ruled with ⟨group, listed, rfl, member⟩
    rcases mem_groups_iff.1 listed with ⟨found, mapped⟩
    rw [served] at member
    split at member
    · cases member
    · next mapping =>
        rw [mapped] at mapping
        exact ⟨⟨group.tasks, found, member⟩, by simpa using mapping⟩

theorem of_masterRule?_eq_some {group : SiteMapGroup} {r : Rule}
    (made : masterRule? group = some r) : r.Serves (Spells (served group)) := by
  simp only [masterRule?] at made
  split at made
  · cases made
  · next mapping =>
      rcases Option.map_eq_some_iff.1 made with ⟨selector, selects, rfl⟩
      simpa [served, mapping] using serves_masterRule selects

theorem exists_masterRule? {group : SiteMapGroup} {task : String} (member : task ∈ served group) :
    ∃ r, masterRule? group = some r := by
  rw [served] at member
  rw [masterRule?]
  split at member
  · cases member
  · next mapping =>
      rw [if_neg mapping]
      exact exists_of_mem member (masterRule group)

theorem pairwise_masterRule?_iff (o : Overflow) :
    (o.groups.filterMap masterRule?).Pairwise Rule.NeverBoth ↔
      ∀ task task', Text.sameIgnoringCase task task' = true →
        ∀ k k', o.groupOf? task = some k → o.groupOf? task' = some k' → k = k' := by
  have distinct : o.groups.Pairwise fun g g' => g.whitelist ≠ g'.whitelist := by
    rw [groups, WhitelistGroups.withMapping, List.pairwise_map]
    exact o.claims.groups.distinct_keys
  apply pairwise_filterMap_neverBoth_iff distinct _ _ fun task k => groupOf?_eq_some_iff
  · intro group _ r made
    exact of_masterRule?_eq_some made
  · intro group _ task member
    exact exists_masterRule? member

/-- A replacement and a group exclude each other unless a task of the group is a spelling of the
replaced one. -/
theorem neverBoth_replacement_master_iff (o : Overflow) :
    (∀ r ∈ o.modifications.listings.filterMap o.replacementRule?,
        ∀ r' ∈ o.groups.filterMap masterRule?, Rule.NeverBoth r r') ↔
      ∀ task task', Text.sameIgnoringCase task task' = true → o.replaces task = true →
        o.groupOf? task' = none := by
  constructor
  · intro never task task' same replaced
    rw [replaces, List.any_eq_true] at replaced
    rcases replaced with ⟨l, listed, both⟩
    rcases Bool.and_eq_true_iff.1 both with ⟨own, some⟩
    rcases Option.isSome_iff_exists.1 some with ⟨r, made⟩
    rw [Option.eq_none_iff_forall_ne_some]
    intro whitelist grouped
    rcases groupOf?_eq_some_iff.1 grouped with ⟨group, listed', _, member⟩
    rcases exists_masterRule? member with ⟨r', made'⟩
    have apart := never r (List.mem_filterMap.2 ⟨l, listed, made⟩) r'
      (List.mem_filterMap.2 ⟨group, listed', made'⟩)
    rw [(of_replacementRule?_eq_some made).2.neverBoth_iff (of_masterRule?_eq_some made')] at apart
    exact apart task ⟨(beq_iff_eq.1 own).symm, task', member, same⟩
  · intro apart r member r' member'
    rcases List.mem_filterMap.1 member with ⟨l, listed, made⟩
    rcases List.mem_filterMap.1 member' with ⟨group, listed', made'⟩
    rw [(of_replacementRule?_eq_some made).2.neverBoth_iff (of_masterRule?_eq_some made')]
    rintro task ⟨rfl, task', grouped, same⟩
    have replaced : o.replaces l.task = true := by
      rw [replaces, List.any_eq_true]
      exact ⟨l, listed, by simp [made]⟩
    have free := apart l.task task' same replaced
    rw [groupOf?_eq_some_iff.2 ⟨group, listed', rfl, grouped⟩] at free
    cases free

end Overflow

/-! ### All categories -/

def Category.taskKeyed : List Category := [overflow, memory, time, slope, resize, read]

namespace Policy

/-- Tasks that differ in case only have the same place in the category. -/
def TasksApart (p : Policy) (category : Category) : Prop :=
  ∀ task task', Text.sameIgnoringCase task task' = true → ∀ place place',
    p.place? category task = some place → p.place? category task' = some place' → place = place'

theorem tasksApart_map_iff {Key : Type} {found? : String → Option Key} {place : Key → TaskPlace}
    (injective : ∀ k k', place k = place k' → k = k') :
    (∀ task task', Text.sameIgnoringCase task task' = true → ∀ x x',
        (found? task).map place = some x → (found? task').map place = some x' → x = x') ↔
      ∀ task task', Text.sameIgnoringCase task task' = true → ∀ k k',
        found? task = some k → found? task' = some k' → k = k' := by
  constructor
  · intro apart task task' same k k' own own'
    exact injective k k' (apart task task' same _ _ (by rw [own]; rfl) (by rw [own']; rfl))
  · intro apart task task' same x x' own own'
    rcases Option.map_eq_some_iff.1 own with ⟨k, found, rfl⟩
    rcases Option.map_eq_some_iff.1 own' with ⟨k', found', rfl⟩
    rw [apart task task' same k k' found found']

theorem tasksApart_overflow_iff (p : Policy) :
    p.TasksApart .overflow ↔ (Compiled.rules p.overflow.compile).Pairwise Rule.NeverBoth := by
  rw [Overflow.rules_compile, List.pairwise_append, p.overflow.neverBoth_replacement_master_iff,
    p.overflow.pairwise_masterRule?_iff]
  constructor
  · intro apart
    refine ⟨p.overflow.pairwise_replacementRule?, ?_, ?_⟩
    · intro task task' same k k' own own'
      have places := apart task task' same _ _ (Overflow.place?_of_groupOf? own)
        (Overflow.place?_of_groupOf? own')
      cases places
      rfl
    · intro task task' same replaced
      rw [Option.eq_none_iff_forall_ne_some]
      intro whitelist grouped
      have places := apart task task' same _ _ (Overflow.place?_of_replaces replaced)
        (Overflow.place?_of_groupOf? grouped)
      cases places
  · rintro ⟨_, groups, replaced⟩ task task' same place place' own own'
    have same' : Text.sameIgnoringCase task' task = true := by
      rw [Text.sameIgnoringCase_comm]
      exact same
    rcases Overflow.of_place?_eq_some own with ⟨rfl, replaces⟩ | ⟨whitelist, rfl, grouped⟩
    · rcases Overflow.of_place?_eq_some own' with ⟨rfl, _⟩ | ⟨whitelist, rfl, grouped⟩
      · rfl
      · rw [replaced task task' same replaces] at grouped
        cases grouped
    · rcases Overflow.of_place?_eq_some own' with ⟨rfl, replaces⟩ | ⟨whitelist', rfl, grouped'⟩
      · rw [replaced task' task same' replaces] at grouped
        cases grouped
      · rw [groups task task' same whitelist whitelist' grouped grouped']

/-- In a category that is keyed by tasks at most one rule matches each job, exactly if tasks that
differ in case only have the same place. -/
theorem at_most_one_match_iff (p : Policy) (options : CompileOptions) (category : Category)
    (keyed : category ∈ Category.taskKeyed) :
    (∀ ad, ((p.compile options).rules.ofCategory category).countP (·.matchesAd ad) ≤ 1) ↔
      p.TasksApart category := by
  rw [Rule.countP_matchesAd_le_one_iff, ofCategory_compile]
  simp only [Category.taskKeyed, List.mem_cons, List.not_mem_nil, or_false] at keyed
  have threshold : ∀ k k', TaskPlace.threshold k = .threshold k' → k = k' :=
    fun _ _ => TaskPlace.threshold.inj
  rcases keyed with rfl | rfl | rfl | rfl | rfl | rfl
  · exact p.tasksApart_overflow_iff.symm
  · exact (Tuning.pairwise_neverBoth_iff (by simp) p.memory).trans
      (tasksApart_map_iff threshold).symm
  · exact (Tuning.pairwise_neverBoth_iff (by simp) p.time).trans (tasksApart_map_iff threshold).symm
  · exact (Tuning.pairwise_neverBoth_iff (by simp) p.slope).trans
      (tasksApart_map_iff threshold).symm
  · exact (ResizePolicy.pairwise_neverBoth_iff p.resizing).trans
      (tasksApart_map_iff fun _ _ => TaskPlace.resized.inj).symm
  · exact (Tuning.pairwise_neverBoth_iff (by simp) p.read).trans (tasksApart_map_iff threshold).symm

def spelledTwice : Policy :=
  { empty with memory := (ThresholdMap.empty.insert 2000 ["/wf/A"]).insert 4000 ["/wf/a"] }

theorem at_most_one_match_iff_spelledTwice :
    Category.memory ∈ Category.taskKeyed ∧
      ((∀ ad, ((spelledTwice.compile .standard).rules.ofCategory .memory).countP
        (·.matchesAd ad) ≤ 1) ↔ spelledTwice.TasksApart .memory) :=
  ⟨by decide, at_most_one_match_iff spelledTwice .standard .memory (by decide)⟩

theorem two_matches_spelledTwice :
    let ad := (JobAd.empty.assign Attribute.subtaskName (.str "/wf/A")).assign
      Marker.hasPrioCorrection (.bool true)
    ((spelledTwice.compile .standard).rules.ofCategory .memory).countP (·.matchesAd ad) = 2 := by
  intro ad
  rw [ofCategory_compile]
  decide +kernel

end Policy

end RoutingPolicy

import RoutingPolicy.Proofs.Compile.Claims

/-!
# Compiled rules without the reports

Each section of a policy is compiled to entries, some of which are rules and some reports of what
was left out. Here only the rules are listed, category by category, as they come from the section.
An equation of this module is all that a later proof needs to know of how a section is compiled.
-/

namespace RoutingPolicy

set_option autoImplicit false

namespace Compiled

@[simp] theorem rules_append (first second : List Compiled) :
    rules (first ++ second) = rules first ++ rules second :=
  List.filterMap_append

@[simp] theorem rules_skips (reasons : List SkipReason) : rules (skips reasons) = [] := by
  simp [rules, skips, rule?]

@[simp] theorem rules_map_skip {Item : Type} (reason : Item → SkipReason) (items : List Item) :
    rules (items.map fun item => .skip (reason item)) = [] := by
  simp [rules, rule?]

@[simp] theorem rules_map_rule {Item : Type} (rule : Item → Rule) (items : List Item) :
    rules (items.map fun item => .rule (rule item)) = items.map rule := by
  induction items with
  | nil => rfl
  | cons item rest induction =>
      change rule item :: rules (rest.map fun item => .rule (rule item)) = _
      rw [induction]
      rfl

theorem rules_map {Item : Type} (entry : Item → Compiled) (items : List Item) :
    rules (items.map entry) = items.filterMap fun item => (entry item).rule? := by
  rw [rules, List.filterMap_map]
  rfl

theorem rules_map_kept {Item : Type} {entry : Item → Compiled} {keep : Item → Bool}
    {rule : Item → Rule} (items : List Item)
    (kept : ∀ item, (entry item).rule? = if keep item then some (rule item) else none) :
    rules (items.map entry) = (items.filter keep).map rule := by
  rw [rules_map]
  induction items with
  | nil => rfl
  | cons item rest induction =>
      rw [List.filterMap_cons, kept item, induction]
      cases decided : keep item <;> simp [decided]

theorem rules_flatMap {Item : Type} {entries : Item → List Compiled} {rule? : Item → Option Rule}
    (items : List Item) (single : ∀ item ∈ items, rules (entries item) = (rule? item).toList) :
    rules (items.flatMap entries) = items.filterMap rule? := by
  induction items with
  | nil => rfl
  | cons item rest induction =>
      rw [List.flatMap_cons, rules_append, single item List.mem_cons_self,
        induction fun item member => single item (List.mem_cons_of_mem _ member)]
      cases made : rule? item <;> simp [made]

end Compiled

open Compiled

/-! ### Overflow -/

namespace Overflow

open Compile.Overflow

/-- The tasks whose whitelist is replaced, each with the workflow that replaces it. -/
def replaced (o : Overflow) : SortedMap String String :=
  (replaceListings o.modifications.listings).1

def groups (o : Overflow) : List SiteMapGroup :=
  (addListings o.replaced .empty o.modifications.listings).1.withMapping
    (DestinationMap.invert (checkedMapping o.reversedMapping))

/-- The rule that replaces a whitelist, where the modification is the first to do so and names a
site. -/
def replacementRule? (o : Overflow) (l : Listing) : Option Rule :=
  match l.modification.replacement with
  | none => none
  | some sites =>
      let valid := validSites (Text.nonblank sites)
      if replacedBy? o.modifications.listings l.task = some l.workflow ∧ valid ≠ [] then
        some (replacementRule l.task valid)
      else none

/-- The rule for a group, where a destination is left. -/
def masterRule? (group : SiteMapGroup) : Option Rule :=
  if group.mapping.isEmpty then none
  else (Expr.memberOf? (.plain Attribute.subtaskName) group.tasks.toList).map (masterRule group)

theorem rules_replacementEntries (o : Overflow) (l : Listing) :
    rules (replacementEntries o.modifications.listings l) = (o.replacementRule? l).toList := by
  simp only [replacementEntries, replacementRule?]
  cases l.modification.replacement with
  | none => rfl
  | some sites =>
      cases kept : replacedBy? o.modifications.listings l.task with
      | none => rfl
      | some workflow =>
          by_cases first : workflow = l.workflow
          · simp only [if_pos first, replacement, rules_append, rules_skips, List.nil_append]
            by_cases usable : validSites (Text.nonblank sites) = []
            · simp [usable, rules, rule?]
            · simp [usable, first, rules, rule?]
          · simp [first, rules, rule?]

theorem rule?_groupEntry (group : SiteMapGroup) : (groupEntry group).rule? = masterRule? group := by
  simp only [groupEntry, masterRule?]
  split
  · rfl
  · cases Expr.memberOf? (.plain Attribute.subtaskName) group.tasks.toList <;> rfl

theorem rules_compile (o : Overflow) :
    rules o.compile =
      o.modifications.listings.filterMap o.replacementRule? ++ o.groups.filterMap masterRule? := by
  simp only [compile, rules_append, rules_skips, List.append_nil, replaceListings_eq]
  congr 1
  · exact rules_flatMap _ fun l _ => o.rules_replacementEntries l
  · simp only [rules_map, rule?_groupEntry]
    rfl

end Overflow

/-! ### Tuning -/

namespace Tuning

def rule? (t : Tuning) (thresholds : ThresholdMap) (group : Int64 × List String) : Option Rule :=
  (Expr.memberOf? (.plain Attribute.subtaskName) (selected thresholds group.1 group.2)).map
    (t.rule group.1)

theorem rules_compile (t : Tuning) (thresholds : ThresholdMap) :
    rules (t.compile thresholds) = thresholds.toList.filterMap (t.rule? thresholds) := by
  rw [compile_eq]
  refine rules_flatMap _ fun (threshold, tasks) _ => ?_
  simp only [groupEntries, rules_append, rules_skips, List.nil_append, rule?]
  cases Expr.memberOf? (.plain Attribute.subtaskName) (selected thresholds threshold tasks) <;> rfl

end Tuning

namespace ResizePolicy

def rule? (group : ResizePolicy × List String) : Option Rule :=
  (Expr.memberOf? (.plain Attribute.subtaskName) group.2).map group.1.rule

theorem rules_compile (resizing : SortedMap String ResizePolicy) :
    rules (compile resizing) = (group resizing).entries.filterMap rule? := by
  rw [compile, rules_map]
  apply List.filterMap_congr
  intro (policy, tasks) _
  simp only [rule?]
  cases Expr.memberOf? (.plain Attribute.subtaskName) tasks <;> rfl

end ResizePolicy

/-! ### Holding and releasing -/

namespace Policy

open Compile.Hold Compile.Ranking Compile.Correction

def empty : Policy :=
  ⟨.empty, .empty, .empty, .empty, .empty, .empty, .empty, .empty, [], [], [], [], []⟩

/-- The tasks that are held, since they are not released as they are written. -/
def heldTasks (p : Policy) : List String := p.hold.keys.filter fun task => !p.release.contains task

def heldSites (p : Policy) : List SiteName :=
  (validSites p.holdSite).filter fun site => !(p.releaseSite.map Text.trim).contains site.text

theorem rules_taskEntries (rule : Expr → Rule) (tasks : List String) :
    rules (taskEntries rule tasks) =
      ((Expr.memberOf? (.plain Attribute.subtaskName) tasks).map rule).toList := by
  simp only [taskEntries]
  cases Expr.memberOf? (.plain Attribute.subtaskName) tasks <;> rfl

theorem rules_compileHold (p : Policy) (options : CompileOptions) :
    rules (p.compileHold options) =
      ((Expr.memberOf? (.plain Attribute.subtaskName) p.heldTasks).map
        (holdTasksRule options)).toList := by
  simp only [compileHold, rules_append, rules_map_skip, List.nil_append, rules_taskEntries,
    List.partition_eq_filter_filter]
  rfl

theorem rules_compileHoldSite (p : Policy) :
    rules p.compileHoldSite = p.heldSites.map holdSiteRule := by
  rw [compileHoldSite, rules_append, rules_skips, List.nil_append]
  apply rules_map_kept
  intro site
  rw [holdSiteEntry]
  cases (p.releaseSite.map Text.trim).contains site.text <;> rfl

theorem rules_compileReleaseSite (p : Policy) :
    rules p.compileReleaseSite = (validSites p.releaseSite).map releaseSiteRule := by
  rw [compileReleaseSite, rules_append, rules_skips, List.nil_append, rules_map_rule]

/-! ### Priority, fixed rules and resets -/

theorem rules_raise (options : CompileOptions) (requests : List String) :
    rules (raise options requests) =
      ((Expr.memberOf? (.target Attribute.requestName) (Text.nonblank requests)).map
        (raiseRule options)).toList := by
  simp only [raise]
  cases Expr.memberOf? (.target Attribute.requestName) (Text.nonblank requests) <;> rfl

theorem rules_drain (options : CompileOptions) (agents : List String) :
    rules (drain options agents) =
      ((addAllNew [] (Text.nonblank agents)).filter fun agent =>
        (Regex.read? agent).isSome).map (drainRule options) := by
  apply rules_map_kept
  intro agent
  rw [drainEntry, Regex.read?]
  cases Regex.read agent <;> rfl

theorem rules_sort (options : CompileOptions) :
    rules (sort options) = if options.sortWhitelist then [sortRule] else [] := by
  simp only [sort]
  split <;> rfl

theorem rules_adhoc (options : CompileOptions) :
    rules (adhoc options) = if options.adhoc then corrections else [] := by
  simp only [adhoc]
  split
  · exact (rules_map_rule id corrections).trans (List.map_id _)
  · rfl

theorem rules_reset (flags : List String) :
    rules (reset flags) = (distinctFlags (Text.nonblank flags)).map resetRule :=
  rules_map_rule _ _

theorem mem_compile_rules {p : Policy} {options : CompileOptions} {r : Rule} :
    r ∈ (p.compile options).rules.rules ↔ ∃ category, r ∈ rules (p.entries options category) := by
  simp only [compile, List.mem_flatMap]
  exact exists_congr fun category => and_iff_right (Category.mem_emissionOrder category)

end Policy

end RoutingPolicy

import RoutingPolicy.Proofs.Compile.Rules
import RoutingPolicy.Proofs.Rule.Latch

/-!
# Families of compiled rules

Every compiled rule belongs to a family: the rules that come from one definition and differ only in
what the policy says. `Policy.Makes` lists the families with the conditions under which a policy
makes a rule of each, and `mem_compile_iff` says that the compiled rules are exactly those. What a
rule of a family writes is known from a table, up to the marker of the held site and the flag of a
reset, which depend on the policy. So who writes an attribute is a question about the table.
-/

namespace RoutingPolicy

set_option autoImplicit false

open Compile Compile.Overflow Compile.Hold Compile.Ranking Compile.Correction

/-- The rules that come from one definition. -/
inductive Family where
  | replacement
  | master
  | sort
  | correction
  | memory
  | time
  | slope
  | read
  | resize
  | hold
  | release
  | holdSite
  | releaseSite
  | raise
  | drain
  | memoryFix
  | t0Memory
  | t0Spill
  | multicore
  | wallTime
  | reset
  deriving DecidableEq

namespace Family

def category : Family → Category
  | replacement => .overflow
  | master => .overflow
  | sort => .sortWhitelist
  | correction => .priorityCorrection
  | memory => .memory
  | time => .time
  | slope => .slope
  | read => .read
  | resize => .resize
  | hold => .hold
  | release => .release
  | holdSite => .holdSite
  | releaseSite => .releaseSite
  | raise => .priorityRaise
  | drain => .drain
  | memoryFix => .adHoc
  | t0Memory => .adHoc
  | t0Spill => .adHoc
  | multicore => .adHoc
  | wallTime => .adHoc
  | reset => .reset

end Family

namespace Policy

def tunings (p : Policy) : List (Family × Tuning × ThresholdMap) :=
  [(.memory, .memory, p.memory), (.time, .time, p.time), (.slope, .slope, p.slope),
    (.read, .read, p.read)]

def fixes : List (Family × Rule) :=
  [(.memoryFix, memoryRule 22092 18000), (.memoryFix, memoryRule 23260 19500),
    (.t0Memory, t0MemoryRule), (.t0Spill, t0SpillRule), (.multicore, multicoreRule),
    (.wallTime, wallTimeRule)]

inductive Makes (p : Policy) (options : CompileOptions) : Family → Rule → Prop where
  | replacement {l : Listing} {sites : List String}
      (listed : l ∈ p.overflow.modifications.listings)
      (replaces : l.modification.replacement = some sites)
      (first : replacedBy? p.overflow.modifications.listings l.task = some l.workflow)
      (usable : validSites (Text.nonblank sites) ≠ []) :
      Makes p options .replacement (replacementRule l.task (validSites (Text.nonblank sites)))
  | master {group : SiteMapGroup} {selector : Expr} (listed : group ∈ p.overflow.groups)
      (mapped : group.mapping.isEmpty = false)
      (selects : Expr.memberOf? (.plain Attribute.subtaskName) group.tasks.toList = some selector) :
      Makes p options .master (masterRule group selector)
  | sort (chosen : options.sortWhitelist = true) : Makes p options .sort sortRule
  | correction : Makes p options .correction correctionRule
  | tuning {f : Family} {t : Tuning} {thresholds : ThresholdMap} {threshold : Int64}
      {tasks : List String} {selector : Expr} (tuned : (f, t, thresholds) ∈ p.tunings)
      (listed : (threshold, tasks) ∈ thresholds.toList)
      (selects : Expr.memberOf? (.plain Attribute.subtaskName)
        (Tuning.selected thresholds threshold tasks) = some selector) :
      Makes p options f (t.rule threshold selector)
  | resize {policy : ResizePolicy} {tasks : List String} {selector : Expr}
      (listed : (policy, tasks) ∈ (ResizePolicy.group p.resizing).entries)
      (selects : Expr.memberOf? (.plain Attribute.subtaskName) tasks = some selector) :
      Makes p options .resize (policy.rule selector)
  | hold {selector : Expr}
      (selects : Expr.memberOf? (.plain Attribute.subtaskName) p.heldTasks = some selector) :
      Makes p options .hold (holdTasksRule options selector)
  | release {selector : Expr}
      (selects : Expr.memberOf? (.plain Attribute.subtaskName) p.release.toList = some selector) :
      Makes p options .release (releaseTasksRule selector)
  | holdSite {site : SiteName} (listed : site ∈ p.heldSites) :
      Makes p options .holdSite (holdSiteRule site)
  | releaseSite {site : SiteName} (listed : site ∈ validSites p.releaseSite) :
      Makes p options .releaseSite (releaseSiteRule site)
  | raise {selector : Expr}
      (selects : Expr.memberOf? (.target Attribute.requestName) (Text.nonblank p.highprio) =
        some selector) :
      Makes p options .raise (raiseRule options selector)
  | drain {agent : String} (listed : agent ∈ Text.nonblank p.speedDrain)
      (readable : (Regex.read? agent).isSome = true) :
      Makes p options .drain (drainRule options agent)
  | fix {f : Family} {r : Rule} (chosen : options.adhoc = true) (listed : (f, r) ∈ fixes) :
      Makes p options f r
  | reset {flag : String} (listed : flag ∈ distinctFlags (Text.nonblank p.resetRouting)) :
      Makes p options .reset (resetRule flag)

variable {p : Policy} {options : CompileOptions} {f : Family} {r : Rule}

theorem of_mem_tunings {t : Tuning} {thresholds : ThresholdMap}
    (tuned : (f, t, thresholds) ∈ p.tunings) :
    (f = .memory ∧ t = .memory ∧ thresholds = p.memory) ∨
      (f = .time ∧ t = .time ∧ thresholds = p.time) ∨
      (f = .slope ∧ t = .slope ∧ thresholds = p.slope) ∨
      (f = .read ∧ t = .read ∧ thresholds = p.read) := by
  simpa [tunings] using tuned

theorem of_mem_fixes (listed : (f, r) ∈ fixes) :
    (f = .memoryFix ∧ r = memoryRule 22092 18000) ∨ (f = .memoryFix ∧ r = memoryRule 23260 19500) ∨
      (f = .t0Memory ∧ r = t0MemoryRule) ∨ (f = .t0Spill ∧ r = t0SpillRule) ∨
      (f = .multicore ∧ r = multicoreRule) ∨ (f = .wallTime ∧ r = wallTimeRule) := by
  simpa [fixes] using listed

theorem Makes.category_eq (makes : p.Makes options f r) : r.category = f.category := by
  cases makes with
  | tuning tuned _ _ =>
      rcases of_mem_tunings tuned with ⟨rfl, rfl, _⟩ | ⟨rfl, rfl, _⟩ | ⟨rfl, rfl, _⟩ |
        ⟨rfl, rfl, _⟩ <;> rfl
  | fix _ listed =>
      rcases of_mem_fixes listed with ⟨rfl, rfl⟩ | ⟨rfl, rfl⟩ | ⟨rfl, rfl⟩ | ⟨rfl, rfl⟩ |
        ⟨rfl, rfl⟩ | ⟨rfl, rfl⟩ <;>
        rfl
  | _ => rfl

/-! ### Rules of one family -/

theorem Makes.of_replacement (makes : p.Makes options .replacement r) :
    ∃ task sites, r = replacementRule task sites := by
  cases makes with
  | replacement _ _ _ _ => exact ⟨_, _, rfl⟩
  | tuning tuned _ _ => simp [tunings] at tuned
  | fix _ listed => simp [fixes] at listed

theorem Makes.of_master (makes : p.Makes options .master r) :
    ∃ group selector, Expr.memberOf? (.plain Attribute.subtaskName) group.tasks.toList =
      some selector ∧ r = masterRule group selector := by
  cases makes with
  | master _ _ selects => exact ⟨_, _, selects, rfl⟩
  | tuning tuned _ _ => simp [tunings] at tuned
  | fix _ listed => simp [fixes] at listed

theorem Makes.of_sort (makes : p.Makes options .sort r) : r = sortRule := by
  cases makes with
  | sort _ => rfl
  | tuning tuned _ _ => simp [tunings] at tuned
  | fix _ listed => simp [fixes] at listed

theorem Makes.of_hold (makes : p.Makes options .hold r) :
    ∃ selector, Expr.memberOf? (.plain Attribute.subtaskName) p.heldTasks = some selector ∧
      r = holdTasksRule options selector := by
  cases makes with
  | hold selects => exact ⟨_, selects, rfl⟩
  | tuning tuned _ _ => simp [tunings] at tuned
  | fix _ listed => simp [fixes] at listed

theorem Makes.of_release (makes : p.Makes options .release r) :
    ∃ selector, Expr.memberOf? (.plain Attribute.subtaskName) p.release.toList = some selector ∧
      r = releaseTasksRule selector := by
  cases makes with
  | release selects => exact ⟨_, selects, rfl⟩
  | tuning tuned _ _ => simp [tunings] at tuned
  | fix _ listed => simp [fixes] at listed

theorem Makes.of_holdSite (makes : p.Makes options .holdSite r) :
    ∃ site ∈ p.heldSites, r = holdSiteRule site := by
  cases makes with
  | holdSite listed => exact ⟨_, listed, rfl⟩
  | tuning tuned _ _ => simp [tunings] at tuned
  | fix _ listed => simp [fixes] at listed

theorem Makes.of_releaseSite (makes : p.Makes options .releaseSite r) :
    ∃ site ∈ validSites p.releaseSite, r = releaseSiteRule site := by
  cases makes with
  | releaseSite listed => exact ⟨_, listed, rfl⟩
  | tuning tuned _ _ => simp [tunings] at tuned
  | fix _ listed => simp [fixes] at listed

theorem Makes.of_memoryFix (makes : p.Makes options .memoryFix r) :
    r = memoryRule 22092 18000 ∨ r = memoryRule 23260 19500 := by
  cases makes with
  | tuning tuned _ _ => simp [tunings] at tuned
  | fix _ listed => simpa [fixes] using listed

theorem Makes.of_t0Memory (makes : p.Makes options .t0Memory r) : r = t0MemoryRule := by
  cases makes with
  | tuning tuned _ _ => simp [tunings] at tuned
  | fix _ listed => simpa [fixes] using listed

theorem Makes.of_t0Spill (makes : p.Makes options .t0Spill r) : r = t0SpillRule := by
  cases makes with
  | tuning tuned _ _ => simp [tunings] at tuned
  | fix _ listed => simpa [fixes] using listed

theorem Makes.of_multicore (makes : p.Makes options .multicore r) : r = multicoreRule := by
  cases makes with
  | tuning tuned _ _ => simp [tunings] at tuned
  | fix _ listed => simpa [fixes] using listed

theorem Makes.of_wallTime (makes : p.Makes options .wallTime r) : r = wallTimeRule := by
  cases makes with
  | tuning tuned _ _ => simp [tunings] at tuned
  | fix _ listed => simpa [fixes] using listed

theorem Makes.ne_reset (makes : p.Makes options f r) (empty : p.resetRouting = []) :
    f ≠ .reset := by
  rintro rfl
  cases makes with
  | tuning tuned _ _ => simp [tunings] at tuned
  | fix _ listed => simp [fixes] at listed
  | reset listed =>
      rw [empty] at listed
      cases listed

/-! ### All rules -/

theorem makes_of_mem_overflow (member : r ∈ Compiled.rules p.overflow.compile) :
    p.Makes options .replacement r ∨ p.Makes options .master r := by
  rw [Overflow.rules_compile, List.mem_append, List.mem_filterMap, List.mem_filterMap] at member
  rcases member with ⟨l, listed, made⟩ | ⟨group, listed, made⟩
  · left
    simp only [Overflow.replacementRule?] at made
    split at made
    · cases made
    · next sites replaces =>
        split at made
        · next firstUsable =>
            obtain rfl := Option.some.inj made
            exact .replacement listed replaces firstUsable.1 firstUsable.2
        · cases made
  · right
    simp only [Overflow.masterRule?] at made
    split at made
    · cases made
    · next mapped =>
        rcases Option.map_eq_some_iff.1 made with ⟨selector, selects, rfl⟩
        exact .master listed (Bool.eq_false_iff.2 mapped) selects

theorem makes_of_mem_tuning {t : Tuning} {thresholds : ThresholdMap}
    (tuned : (f, t, thresholds) ∈ p.tunings)
    (member : r ∈ Compiled.rules (t.compile thresholds)) : p.Makes options f r := by
  rw [Tuning.rules_compile, List.mem_filterMap] at member
  rcases member with ⟨⟨threshold, tasks⟩, listed, made⟩
  rcases Option.map_eq_some_iff.1 made with ⟨selector, selects, rfl⟩
  exact .tuning tuned listed selects

theorem makes_of_mem_resize (member : r ∈ Compiled.rules (ResizePolicy.compile p.resizing)) :
    p.Makes options .resize r := by
  rw [ResizePolicy.rules_compile, List.mem_filterMap] at member
  rcases member with ⟨⟨policy, tasks⟩, listed, made⟩
  rcases Option.map_eq_some_iff.1 made with ⟨selector, selects, rfl⟩
  exact .resize listed selects

theorem makes_of_mem_adhoc (member : r ∈ Compiled.rules (adhoc options)) :
    ∃ f, (f.category = .adHoc) ∧ p.Makes options f r := by
  rw [rules_adhoc] at member
  split at member
  · next chosen =>
      simp only [corrections, List.mem_cons, List.not_mem_nil, or_false] at member
      rcases member with rfl | rfl | rfl | rfl | rfl | rfl
      · exact ⟨.memoryFix, rfl, .fix chosen (by simp [fixes])⟩
      · exact ⟨.memoryFix, rfl, .fix chosen (by simp [fixes])⟩
      · exact ⟨.t0Memory, rfl, .fix chosen (by simp [fixes])⟩
      · exact ⟨.t0Spill, rfl, .fix chosen (by simp [fixes])⟩
      · exact ⟨.multicore, rfl, .fix chosen (by simp [fixes])⟩
      · exact ⟨.wallTime, rfl, .fix chosen (by simp [fixes])⟩
  · simp at member

theorem makes_of_mem_rules {category : Category}
    (member : r ∈ Compiled.rules (p.entries options category)) :
    ∃ f, f.category = category ∧ p.Makes options f r := by
  cases category with
  | overflow =>
      rcases makes_of_mem_overflow member with made | made
      · exact ⟨_, rfl, made⟩
      · exact ⟨_, rfl, made⟩
  | sortWhitelist =>
      change r ∈ Compiled.rules (sort options) at member
      rw [rules_sort] at member
      split at member
      · next chosen =>
          obtain rfl := List.mem_singleton.1 member
          exact ⟨_, rfl, .sort chosen⟩
      · simp at member
  | priorityCorrection =>
      obtain rfl := List.mem_singleton.1 member
      exact ⟨_, rfl, .correction⟩
  | memory => exact ⟨.memory, rfl, makes_of_mem_tuning (by simp [tunings]) member⟩
  | time => exact ⟨.time, rfl, makes_of_mem_tuning (by simp [tunings]) member⟩
  | slope => exact ⟨.slope, rfl, makes_of_mem_tuning (by simp [tunings]) member⟩
  | read => exact ⟨.read, rfl, makes_of_mem_tuning (by simp [tunings]) member⟩
  | resize => exact ⟨_, rfl, makes_of_mem_resize member⟩
  | hold =>
      change r ∈ Compiled.rules (p.compileHold options) at member
      rw [rules_compileHold, Option.mem_toList] at member
      rcases Option.map_eq_some_iff.1 member with ⟨selector, selects, rfl⟩
      exact ⟨_, rfl, .hold selects⟩
  | release =>
      change r ∈ Compiled.rules (taskEntries releaseTasksRule p.release.toList) at member
      rw [rules_taskEntries, Option.mem_toList] at member
      rcases Option.map_eq_some_iff.1 member with ⟨selector, selects, rfl⟩
      exact ⟨_, rfl, .release selects⟩
  | holdSite =>
      change r ∈ Compiled.rules p.compileHoldSite at member
      rw [rules_compileHoldSite, List.mem_map] at member
      rcases member with ⟨site, listed, rfl⟩
      exact ⟨_, rfl, .holdSite listed⟩
  | releaseSite =>
      change r ∈ Compiled.rules p.compileReleaseSite at member
      rw [rules_compileReleaseSite, List.mem_map] at member
      rcases member with ⟨site, listed, rfl⟩
      exact ⟨_, rfl, .releaseSite listed⟩
  | priorityRaise =>
      change r ∈ Compiled.rules (raise options p.highprio) at member
      rw [rules_raise, Option.mem_toList] at member
      rcases Option.map_eq_some_iff.1 member with ⟨selector, selects, rfl⟩
      exact ⟨_, rfl, .raise selects⟩
  | drain =>
      change r ∈ Compiled.rules (drain options p.speedDrain) at member
      rw [rules_drain, List.mem_map] at member
      rcases member with ⟨agent, listed, rfl⟩
      rcases List.mem_filter.1 listed with ⟨listed, readable⟩
      have entered := mem_addAllNew.1 listed
      exact ⟨_, rfl, .drain (entered.resolve_left List.not_mem_nil) readable⟩
  | adHoc => exact makes_of_mem_adhoc member
  | reset =>
      change r ∈ Compiled.rules (reset p.resetRouting) at member
      rw [rules_reset, List.mem_map] at member
      rcases member with ⟨flag, listed, rfl⟩
      exact ⟨_, rfl, .reset listed⟩

theorem mem_rules_of_makes (makes : p.Makes options f r) :
    r ∈ Compiled.rules (p.entries options f.category) := by
  cases makes with
  | replacement listed replaces first usable =>
      change _ ∈ Compiled.rules p.overflow.compile
      rw [Overflow.rules_compile, List.mem_append, List.mem_filterMap]
      exact .inl ⟨_, listed, by simp [Overflow.replacementRule?, replaces, first, usable]⟩
  | master listed mapped selects =>
      change _ ∈ Compiled.rules p.overflow.compile
      rw [Overflow.rules_compile, List.mem_append, List.mem_filterMap, List.mem_filterMap]
      exact .inr ⟨_, listed, by simp [Overflow.masterRule?, mapped, selects]⟩
  | sort chosen =>
      change _ ∈ Compiled.rules (sort options)
      simp [rules_sort, chosen]
  | correction => exact List.mem_singleton.2 rfl
  | @tuning _ t thresholds threshold tasks selector tuned listed selects =>
      have member : t.rule threshold selector ∈ Compiled.rules (t.compile thresholds) := by
        rw [Tuning.rules_compile, List.mem_filterMap]
        exact ⟨_, listed, by simp [Tuning.rule?, selects]⟩
      rcases of_mem_tunings tuned with ⟨rfl, rfl, rfl⟩ | ⟨rfl, rfl, rfl⟩ | ⟨rfl, rfl, rfl⟩ |
        ⟨rfl, rfl, rfl⟩ <;>
        exact member
  | resize listed selects =>
      change _ ∈ Compiled.rules (ResizePolicy.compile p.resizing)
      rw [ResizePolicy.rules_compile, List.mem_filterMap]
      exact ⟨_, listed, by simp [ResizePolicy.rule?, selects]⟩
  | hold selects =>
      change _ ∈ Compiled.rules (p.compileHold options)
      simp [rules_compileHold, selects]
  | release selects =>
      change _ ∈ Compiled.rules (taskEntries releaseTasksRule p.release.toList)
      simp [rules_taskEntries, selects]
  | holdSite listed =>
      change _ ∈ Compiled.rules p.compileHoldSite
      rw [rules_compileHoldSite]
      exact List.mem_map_of_mem listed
  | releaseSite listed =>
      change _ ∈ Compiled.rules p.compileReleaseSite
      rw [rules_compileReleaseSite]
      exact List.mem_map_of_mem listed
  | raise selects =>
      change _ ∈ Compiled.rules (raise options p.highprio)
      simp [rules_raise, selects]
  | drain listed readable =>
      change _ ∈ Compiled.rules (drain options p.speedDrain)
      rw [rules_drain]
      exact List.mem_map_of_mem
        (List.mem_filter.2 ⟨mem_addAllNew.2 (.inr listed), readable⟩)
  | fix chosen listed =>
      have member : r ∈ Compiled.rules (adhoc options) := by
        rw [rules_adhoc, if_pos chosen]
        have table : corrections = fixes.map Prod.snd := rfl
        rw [table]
        exact List.mem_map_of_mem listed
      rcases of_mem_fixes listed with ⟨rfl, _⟩ | ⟨rfl, _⟩ | ⟨rfl, _⟩ | ⟨rfl, _⟩ | ⟨rfl, _⟩ |
        ⟨rfl, _⟩ <;>
        exact member
  | reset listed =>
      change _ ∈ Compiled.rules (reset p.resetRouting)
      rw [rules_reset]
      exact List.mem_map_of_mem listed

theorem mem_compile_iff :
    r ∈ (p.compile options).rules.rules ↔ ∃ f, p.Makes options f r := by
  rw [mem_compile_rules]
  constructor
  · intro compiled
    rcases compiled with ⟨category, member⟩
    rcases makes_of_mem_rules member with ⟨f, _, makes⟩
    exact ⟨f, makes⟩
  · intro made
    rcases made with ⟨f, makes⟩
    exact ⟨f.category, mem_rules_of_makes makes⟩

theorem ofCategory_compile (p : Policy) (options : CompileOptions) (category : Category) :
    (p.compile options).rules.ofCategory category =
      Compiled.rules (p.entries options category) := by
  have own : ∀ c, (Compiled.rules (p.entries options c)).filter (·.category == category) =
      if c = category then Compiled.rules (p.entries options c) else [] := by
    intro c
    have made : ∀ r ∈ Compiled.rules (p.entries options c), r.category = c := by
      intro r member
      rcases makes_of_mem_rules member with ⟨f, rfl, makes⟩
      exact makes.category_eq
    split
    · next same =>
        rw [List.filter_eq_self]
        intro r member
        simp [made r member, same]
    · next other =>
        rw [List.filter_eq_nil_iff]
        intro r member
        simp [made r member, other]
  simp only [RuleSet.ofCategory, compile, List.filter_flatMap, own]
  cases category <;> simp [Category.emissionOrder]

end Policy

end RoutingPolicy

import RoutingPolicy.Proofs.Compile.SelfDisabling
import RoutingPolicy.Proofs.Router.Firing

/-!
# Rules that act once in a run

Where nothing is reset, a family whose latch no other family writes acts once in a run at most: its
first rule closes the latch for all of them. For most categories this is a statement on the
category, which has one family only. In the other two the rules are told apart by their names.
-/

namespace RoutingPolicy

set_option autoImplicit false

open Compile Compile.Overflow Compile.Hold Compile.Ranking Compile.Correction

/-- The categories whose rules are all of one family, with a latch of its own. -/
def Category.oneShot : List Category :=
  [sortWhitelist, priorityCorrection, memory, time, slope, resize, read, priorityRaise, drain]

namespace Rule

def isReplacement (r : Rule) : Bool :=
  r.category == .overflow && "Site Replacement for ".toList.isPrefixOf r.name.toList

def isMaster (r : Rule) : Bool :=
  r.category == .overflow && "Master overflow rule".toList.isPrefixOf r.name.toList

def isSpill (r : Rule) : Bool := r.category == .adHoc && r.name == "Draining T0 VMs"

end Rule

/-- A run applies one rule at most of each one-shot category, of the rules that replace whitelists,
of the rules for groups, and of the rules that let jobs out of tier 0. -/
structure RuleSet.ActsOnce (s : RuleSet) (limit : Nat) (ad : JobAd) : Prop where
  names : (s.run limit ad).1.fired = (s.firedRules limit ad).map (·.name)
  oneShot : ∀ category ∈ Category.oneShot,
    (s.firedRules limit ad).countP (·.category == category) ≤ 1
  replacement : (s.firedRules limit ad).countP Rule.isReplacement ≤ 1
  master : (s.firedRules limit ad).countP Rule.isMaster ≤ 1
  spill : (s.firedRules limit ad).countP Rule.isSpill ≤ 1

namespace Policy

variable {p : Policy} {options : CompileOptions} {f only : Family} {r : Rule} {latch : Latch}
  {picks : Rule → Bool}

theorem sharesLatch (empty : p.resetRouting = []) (shared : only.latch? options = some latch)
    (owned : (latch.attr, [only]) ∈ Family.writers)
    (picked : ∀ f r, p.Makes options f r → (picks r = true ↔ f = only)) :
    (p.compile options).rules.SharesLatch picks latch where
  latched := by
    intro r member chosen
    rcases mem_compile_iff.1 member with ⟨f, makes⟩
    obtain rfl := (picked f r makes).1 chosen
    exact makes.latches shared
  kept := by
    intro r member unchosen
    rcases mem_compile_iff.1 member with ⟨f, makes⟩
    apply makes.not_writes (makes.ne_reset empty) owned
    rw [List.mem_singleton, ← picked f r makes, unchosen]
    exact Bool.false_ne_true

theorem sharesLatch_category {category : Category} (empty : p.resetRouting = [])
    (shared : only.latch? options = some latch) (owned : (latch.attr, [only]) ∈ Family.writers)
    (unique : ∀ f : Family, f.category = category ↔ f = only) :
    (p.compile options).rules.SharesLatch (·.category == category) latch := by
  apply sharesLatch empty shared owned
  intro f r makes
  rw [beq_iff_eq, makes.category_eq]
  exact unique f

/-! ### Families that share a category -/

theorem replacementName_replacement (task : String) :
    "Site Replacement for ".toList.isPrefixOf ("Site Replacement for " ++ task).toList = true := by
  rw [String.toList_append, List.isPrefixOf_iff_prefix]
  exact List.prefix_append _ _

theorem replacementName_master (whitelist : String) :
    "Site Replacement for ".toList.isPrefixOf
      ("Master overflow rule to run at " ++ whitelist ++ " in addition").toList = false := by
  simp [List.isPrefixOf]

theorem masterName_replacement (task : String) :
    "Master overflow rule".toList.isPrefixOf ("Site Replacement for " ++ task).toList = false := by
  simp [List.isPrefixOf]

theorem masterName_master (whitelist : String) :
    "Master overflow rule".toList.isPrefixOf
      ("Master overflow rule to run at " ++ whitelist ++ " in addition").toList = true := by
  simp [List.isPrefixOf]

theorem spillName_memory (text : String) :
    "Correcting memory requirement of " ++ text ≠ "Draining T0 VMs" := by
  simp [← String.toList_inj]

theorem category_eq_overflow_iff : f.category = .overflow ↔ f = .replacement ∨ f = .master := by
  cases f <;> simp [Family.category]

theorem Makes.isReplacement_iff (makes : p.Makes options f r) :
    r.isReplacement = true ↔ f = .replacement := by
  rw [Rule.isReplacement, Bool.and_eq_true, beq_iff_eq, makes.category_eq]
  constructor
  · intro both
    rcases both with ⟨overflow, named⟩
    rcases category_eq_overflow_iff.1 overflow with own | rfl
    · exact own
    · rcases makes.of_master with ⟨group, selector, _, rfl⟩
      exact absurd named (Bool.eq_false_iff.1 (replacementName_master group.whitelist.text))
  · intro own
    subst own
    rcases makes.of_replacement with ⟨task, sites, rfl⟩
    exact ⟨rfl, replacementName_replacement task⟩

theorem Makes.isMaster_iff (makes : p.Makes options f r) : r.isMaster = true ↔ f = .master := by
  rw [Rule.isMaster, Bool.and_eq_true, beq_iff_eq, makes.category_eq]
  constructor
  · intro both
    rcases both with ⟨overflow, named⟩
    rcases category_eq_overflow_iff.1 overflow with rfl | own
    · rcases makes.of_replacement with ⟨task, sites, rfl⟩
      exact absurd named (Bool.eq_false_iff.1 (masterName_replacement task))
    · exact own
  · intro own
    subst own
    rcases makes.of_master with ⟨group, selector, _, rfl⟩
    exact ⟨rfl, masterName_master group.whitelist.text⟩

theorem isSpill_of_mem_fixes (listed : (f, r) ∈ fixes) : r.isSpill = true ↔ f = .t0Spill := by
  rcases of_mem_fixes listed with ⟨rfl, rfl⟩ | ⟨rfl, rfl⟩ | ⟨rfl, rfl⟩ | ⟨rfl, rfl⟩ | ⟨rfl, rfl⟩ |
    ⟨rfl, rfl⟩
  · simp [Rule.isSpill, memoryRule, Rule.make, spillName_memory]
  · simp [Rule.isSpill, memoryRule, Rule.make, spillName_memory]
  · simp [Rule.isSpill, t0MemoryRule, Rule.make]
  · simp [Rule.isSpill, t0SpillRule, Rule.make]
  · simp [Rule.isSpill, multicoreRule, Rule.make]
  · simp [Rule.isSpill, wallTimeRule, Rule.make]

theorem Makes.isSpill_iff (makes : p.Makes options f r) : r.isSpill = true ↔ f = .t0Spill := by
  have category := makes.category_eq
  have adHoc : r.isSpill = true → f.category = .adHoc := by
    rw [Rule.isSpill, Bool.and_eq_true, beq_iff_eq, category]
    exact And.left
  cases makes with
  | fix _ listed => exact isSpill_of_mem_fixes listed
  | tuning tuned _ _ =>
      rcases of_mem_tunings tuned with ⟨rfl, _⟩ | ⟨rfl, _⟩ | ⟨rfl, _⟩ | ⟨rfl, _⟩ <;>
        exact iff_of_false (fun spill => by cases adHoc spill) (by decide)
  | _ => exact iff_of_false (fun spill => by cases adHoc spill) (by decide)

/-! ### Whole runs -/

theorem countP_oneShot_le_one {category : Category} (empty : p.resetRouting = [])
    (listed : category ∈ Category.oneShot) (limit : Nat) (ad : JobAd) :
    ((p.compile options).rules.firedRules limit ad).countP (·.category == category) ≤ 1 := by
  have once : ∀ (only : Family) (latch : Latch), only.latch? options = some latch →
      (latch.attr, [only]) ∈ Family.writers →
      (∀ f ∈ Family.all, f.category = category ↔ f = only) →
      ((p.compile options).rules.firedRules limit ad).countP (·.category == category) ≤ 1 := by
    intro only latch shared owned unique
    have shares := sharesLatch_category empty shared owned fun f => unique f f.mem_all
    exact shares.countP_firedRules_le_one limit ad
  simp only [Category.oneShot, List.mem_cons, List.not_mem_nil, or_false] at listed
  rcases listed with rfl | rfl | rfl | rfl | rfl | rfl | rfl | rfl | rfl
  · exact once .sort _ rfl (by simp [Family.writers]) (by decide)
  · exact once .correction _ rfl (by simp [Family.writers]) (by decide)
  · exact once .memory _ rfl (by simp [Family.writers]) (by decide)
  · exact once .time _ rfl (by simp [Family.writers]) (by decide)
  · exact once .slope _ rfl (by simp [Family.writers]) (by decide)
  · exact once .resize _ rfl (by simp [Family.writers]) (by decide)
  · exact once .read _ rfl (by simp [Family.writers]) (by decide)
  · exact once .raise _ rfl (by simp [Family.writers]) (by decide)
  · exact once .drain _ rfl (by simp [Family.writers]) (by decide)

/-- Where nothing is reset, compiled rules act once. -/
theorem one_shot_rules_fire_once (p : Policy) (options : CompileOptions)
    (empty : p.resetRouting = []) (limit : Nat) (ad : JobAd) :
    (p.compile options).rules.ActsOnce limit ad := by
  have replacement : (p.compile options).rules.SharesLatch Rule.isReplacement
      ⟨Marker.hasBeenReplaced, .bool true⟩ :=
    sharesLatch empty rfl (by simp [Family.writers]) fun f r makes => makes.isReplacement_iff
  have master : (p.compile options).rules.SharesLatch Rule.isMaster
      ⟨Marker.hasBeenRoutedOverflow, .bool true⟩ :=
    sharesLatch empty rfl (by simp [Family.writers]) fun f r makes => makes.isMaster_iff
  have spill : (p.compile options).rules.SharesLatch Rule.isSpill ⟨Marker.outOfT0, .bool true⟩ :=
    sharesLatch empty rfl (by simp [Family.writers]) fun f r makes => makes.isSpill_iff
  constructor
  · exact RuleSet.fired_run _ limit ad
  · exact fun category listed => countP_oneShot_le_one empty listed limit ad
  · exact replacement.countP_firedRules_le_one limit ad
  · exact master.countP_firedRules_le_one limit ad
  · exact spill.countP_firedRules_le_one limit ad

/-- Two rules of one category select the same job, since thresholds tell tasks apart by case and
selectors do not. -/
theorem one_shot_rules_fire_once_of_two_thresholds :
    let memory := (ThresholdMap.empty.insert 2000 ["/wf/A"]).insert 4000 ["/wf/a"]
    let p := { empty with memory := memory }
    let ad := JobAd.empty.assign Attribute.subtaskName (.str "/wf/A")
    p.resetRouting = [] ∧ (p.compile .standard).rules.ActsOnce 10 ad := by
  intro memory p ad
  exact ⟨rfl, one_shot_rules_fire_once p .standard rfl 10 ad⟩

end Policy

end RoutingPolicy

import RoutingPolicy.Proofs.Compile.Alternation
import RoutingPolicy.Proofs.Compile.Exclusion
import RoutingPolicy.Proofs.Compile.Quiet
import RoutingPolicy.Proofs.Number.Quotient

/-!
# Thresholds that bring back what a correction took away

A correction of memory or of the wall time leaves no marker. It acts again on a job where a
threshold gives back a value that it corrects, so all depends on which thresholds are left to the
task when it acts for the first time. Thresholds precede corrections: one that is left then is the
value that the job has already, so there is only one, and neither holding nor releasing matches.
Where a policy has no such threshold to give, the correction is spent once it has acted.
-/

namespace RoutingPolicy

set_option autoImplicit false

open Compile Compile.Overflow Compile.Hold Compile.Ranking Compile.Correction

theorem Value.identical_int_iff {v : Value} {i : Int64} :
    v.identical (.int i) = true ↔ v = .int i := by
  cases v <;> simp [identical]

theorem Comparison.order_gt_int_iff {i j : Int64} :
    (Comparison.order .gt).apply (.int i) (.int j) = .bool true ↔ j < i := by
  have ordered : (Comparison.order .gt).apply (.int i) (.int j) = .bool (compare i j == .gt) := rfl
  rw [ordered, Value.bool.injEq, beq_iff_eq, Std.compare_eq_gt]

theorem Comparison.order_gt_real_iff {a : Binary64} {j : Int64} :
    (Comparison.order .gt).apply (.real a) (.int j) = .bool true ↔
      a.order? (.ofInt j.toInt) = some .gt := by
  have ordered : (Comparison.order .gt).apply (.real a) (.int j) =
      .ofBool? ((a.order? (.ofInt j.toInt)).map OrderOp.gt.holds) := rfl
  rw [ordered]
  cases a.order? (.ofInt j.toInt) with
  | none => simp [Value.ofBool?]
  | some order => cases order <;> simp [Value.ofBool?, OrderOp.holds]

/-! ### What a section gives to a task -/

namespace ThresholdMap

/-- The task is kept under the threshold in some spelling. -/
def Gives (m : ThresholdMap) (task : String) (threshold : Int64) : Prop :=
  ∃ listed, Text.sameIgnoringCase task listed = true ∧ m.lowest? listed = some threshold

def GivesOnly (m : ThresholdMap) (task : String) (threshold : Int64) : Prop :=
  ∀ other, m.Gives task other ↔ other = threshold

theorem gives_iff {m : ThresholdMap} {task : String} {threshold : Int64} :
    m.Gives task threshold ↔
      ∃ tasks, (threshold, tasks) ∈ m.toList ∧
        Spells (Tuning.selected m threshold tasks) task := by
  simp only [Gives, Spells, lowest?_eq_some_iff]
  constructor
  · rintro ⟨listed, same, ⟨_, tasks⟩, group, rfl, member⟩
    exact ⟨tasks, group, listed, member, same⟩
  · rintro ⟨tasks, group, listed, member, same⟩
    exact ⟨listed, same, (threshold, tasks), group, rfl, member⟩

end ThresholdMap

theorem Tuning.matchesAd_rule_iff {t : Tuning} {threshold : Int64} {selector : Expr} {ad : JobAd} :
    (t.rule threshold selector).matchesAd ad = true ↔
      ad.eval selector = .bool true ∧ ad.evalAttr t.marker ≠ .bool true ∧
        ad.evalAttr t.attr ≠ .int threshold := by
  rw [Rule.matchesAd, Guard.holds_iff]
  simp only [rule, Rule.make, List.mem_cons, List.not_mem_nil, or_false, forall_eq_or_imp,
    forall_eq, JobAd.eval_flagIsNotTrue_eq_true_iff, AttrRef.name_plain, JobAd.eval_compareTo,
    Comparison.apply, Value.bool.injEq, Bool.not_eq_true', Bool.eq_false_iff, Ne,
    Value.identical_int_iff]

namespace Policy

variable {p : Policy} {options : CompileOptions} {f g : Family} {r c : Rule} {t : Tuning}
  {m : ThresholdMap} {threshold : Int64} {task : String} {ad : JobAd}

theorem eval_selector_iff_spells {items : List String} {selector : Expr}
    (selects : Expr.memberOf? (.plain Attribute.subtaskName) items = some selector)
    (named : ad.evalAttr Attribute.subtaskName = .str task) :
    ad.eval selector = .bool true ↔ Spells items task := by
  rw [Expr.eval_memberOf?_iff selects, AttrRef.name_plain, named]
  simp [Spells]

theorem exists_selector_of_spells {items : List String} (spelled : Spells items task)
    (named : ad.evalAttr Attribute.subtaskName = .str task) :
    ∃ selector, Expr.memberOf? (.plain Attribute.subtaskName) items = some selector ∧
      ad.eval selector = .bool true := by
  obtain ⟨selector, selects⟩ := exists_selector spelled.choose_spec.1
  exact ⟨selector, selects, (eval_selector_iff_spells selects named).2 spelled⟩

theorem Makes.of_tuning (makes : p.Makes options f r) (tuned : (f, t, m) ∈ p.tunings) :
    ∃ threshold tasks selector, (threshold, tasks) ∈ m.toList ∧
      Expr.memberOf? (.plain Attribute.subtaskName) (Tuning.selected m threshold tasks) =
        some selector ∧ r = t.rule threshold selector := by
  cases makes with
  | tuning tuned' listed selects =>
      have same : ∀ e ∈ p.tunings, ∀ e' ∈ p.tunings, e.1 = e'.1 → e = e' := by
        simp [tunings]
      cases same _ tuned _ tuned' rfl
      exact ⟨_, _, _, listed, selects, rfl⟩
  | fix _ listed =>
      rcases of_mem_fixes listed with ⟨rfl, _⟩ | ⟨rfl, _⟩ | ⟨rfl, _⟩ | ⟨rfl, _⟩ | ⟨rfl, _⟩ |
        ⟨rfl, _⟩ <;> simp [tunings] at tuned
  | _ => simp [tunings] at tuned

theorem Makes.exists_gives (makes : p.Makes options f r) (tuned : (f, t, m) ∈ p.tunings)
    (fits : r.matchesAd ad = true) :
    ∃ threshold selector task, r = t.rule threshold selector ∧
      ad.evalAttr Attribute.subtaskName = .str task ∧ m.Gives task threshold := by
  obtain ⟨threshold, tasks, selector, listed, selects, rfl⟩ := makes.of_tuning tuned
  have named := Rule.exists_of_selector selects List.mem_cons_self fits
  obtain ⟨task, value, spelled⟩ := named
  exact ⟨threshold, selector, task, rfl, value, ThresholdMap.gives_iff.2 ⟨tasks, listed, spelled⟩⟩

theorem exists_makes_of_gives (tuned : (f, t, m) ∈ p.tunings) (gives : m.Gives task threshold)
    (named : ad.evalAttr Attribute.subtaskName = .str task) :
    ∃ selector, p.Makes options f (t.rule threshold selector) ∧
      ad.eval selector = .bool true := by
  obtain ⟨tasks, listed, spelled⟩ := ThresholdMap.gives_iff.1 gives
  obtain ⟨selector, selects, selected⟩ := exists_selector_of_spells spelled named
  exact ⟨selector, .tuning tuned listed selects, selected⟩

/-! ### Where a correction acts -/

/-- The task is held in one spelling and released in another. -/
def AlternatesOn (p : Policy) (task : String) : Prop :=
  Spells p.heldTasks task ∧ Spells p.release.toList task

/-- A task that is held as well as released keeps its jobs from all rules behind those two. -/
theorem not_alternatesOn_of_firstMatch? (makes : p.Makes options g c)
    (first : (p.compile options).rules.firstMatch? ad = some c)
    (later : Category.release.position < g.category.position)
    (named : ad.evalAttr Attribute.subtaskName = .str task) : ¬ p.AlternatesOn task := by
  rintro ⟨held, released⟩
  obtain ⟨holding, holds, selected⟩ := exists_selector_of_spells held named
  obtain ⟨releasing, releases, selected'⟩ := exists_selector_of_spells released named
  have unheld := not_matchesAd_of_earlier makes (.hold holds) first
    (Nat.lt_trans (by decide) later)
  have unreleased := not_matchesAd_of_earlier makes (.release releases) first later
  rw [Bool.eq_false_iff, Ne, matchesAd_holdTasksRule_iff] at unheld
  rw [Bool.eq_false_iff, Ne, matchesAd_releaseTasksRule_iff] at unreleased
  by_cases marked : ad.evalAttr Marker.hasBeenSetHeld = .bool true
  · exact unreleased ⟨marked, selected'⟩
  · exact unheld ⟨marked, selected⟩

/-- Where a rule behind a section acts on a job without the marker of the section, the section gives
one threshold at most to its task. -/
theorem givesOnly_of_firstMatch? (tuned : (f, t, m) ∈ p.tunings) (makes : p.Makes options g c)
    (first : (p.compile options).rules.firstMatch? ad = some c)
    (later : f.category.position < g.category.position)
    (named : ad.evalAttr Attribute.subtaskName = .str task)
    (unmarked : ad.evalAttr t.marker ≠ .bool true) (gives : m.Gives task threshold) :
    ad.evalAttr t.attr = .int threshold ∧ m.GivesOnly task threshold := by
  have value : ∀ other, m.Gives task other → ad.evalAttr t.attr = .int other := by
    intro other gives'
    obtain ⟨selector, makes', selected⟩ := exists_makes_of_gives tuned gives' named
    have missed := not_matchesAd_of_earlier makes makes' first later
    rw [Bool.eq_false_iff, Ne, Tuning.matchesAd_rule_iff] at missed
    by_contra different
    exact missed ⟨selected, unmarked, different⟩
  refine ⟨value _ gives, ?_⟩
  intro other
  constructor
  · intro gives'
    have both := (value _ gives').symm.trans (value _ gives)
    exact Value.int.inj both
  · rintro rfl
    exact gives

/-! ### Corrections that are spent -/

/-- A section gives a threshold of the kind to no task alone, unless holding and releasing keep the
jobs of the task to themselves. -/
def Spares (p : Policy) (m : ThresholdMap) (Harmful : Int64 → Prop) : Prop :=
  ∀ task threshold, m.GivesOnly task threshold → Harmful threshold → p.AlternatesOn task

/-- The section has acted on the job, or gives none of the harmful thresholds to its task. -/
def Harmless (t : Tuning) (m : ThresholdMap) (Harmful : Int64 → Prop) (ad : JobAd) : Prop :=
  Latch.Closed ⟨t.marker, .bool true⟩ ad ∨
    ∀ task threshold, ad.evalAttr Attribute.subtaskName = .str task → m.Gives task threshold →
      ¬ Harmful threshold

theorem harmless_of_firstMatch? {Harmful : Int64 → Prop} (tuned : (f, t, m) ∈ p.tunings)
    (makes : p.Makes options g c) (first : (p.compile options).rules.firstMatch? ad = some c)
    (later : f.category.position < g.category.position)
    (behind : Category.release.position < g.category.position) (spares : p.Spares m Harmful)
    (marker : ∃ v, ad.Stores t.marker v) : Harmless t m Harmful ad := by
  obtain ⟨v, stores⟩ := marker
  by_cases marked : v = .bool true
  · subst marked
    exact .inl (stores.get?_eq (by simp))
  · right
    intro task threshold named gives harmful
    rw [← stores.evalAttr] at marked
    have only := (givesOnly_of_firstMatch? tuned makes first later named marked gives).2
    exact not_alternatesOn_of_firstMatch? makes first behind named (spares task _ only harmful)

end Policy

def JobAd.Holds (ad : JobAd) (attr : String) (Right : Value → Prop) : Prop :=
  ∃ v, Right v ∧ ad.get? attr = some (.lit v)

/-- A correction puts right values in place and does not match where there is one. Of the rules that
write the attribute beside it, those of a section do the same where the threshold is harmless, and
the others where the value was right before. -/
structure Rule.Corrects (c : Rule) (p : Policy) (options : CompileOptions) (f : Family) (t : Tuning)
    (attr : String) (Right : Value → Prop) (Harmful : Int64 → Prop) : Prop where
  closes : ∀ ad, (c.apply ad).Holds attr Right
  blocks : ∀ ad : JobAd, ad.Holds attr Right → c.matchesAd ad = false
  tunes : ∀ threshold selector ad, ¬ Harmful threshold →
    ((t.rule threshold selector).apply ad).Holds attr Right
  others : ∀ g r (ad : JobAd), p.Makes options g r → g ≠ f → r.matchesAd ad = true →
    ad.Holds attr Right → (r.apply ad).Holds attr Right

namespace Policy

variable {p : Policy} {options : CompileOptions} {f g : Family} {r c : Rule} {t : Tuning}
  {m : ThresholdMap} {ad : JobAd} {attr : String} {Right : Value → Prop} {Harmful : Int64 → Prop}

theorem latch_of_tuning (options : CompileOptions) (tuned : (f, t, m) ∈ p.tunings) :
    f ∈ ownLatched ∧ f.latch? options = some ⟨t.marker, .bool true⟩ := by
  rcases of_mem_tunings tuned with ⟨rfl, rfl, _⟩ | ⟨rfl, rfl, _⟩ | ⟨rfl, rfl, _⟩ |
    ⟨rfl, rfl, _⟩ <;> exact ⟨by decide, rfl⟩

theorem Harmless.apply (harmless : Harmless t m Harmful ad) (tuned : (f, t, m) ∈ p.tunings)
    (makes : p.Makes options g r) (fixed : g ≠ .reset)
    (tasked : ∃ v, ad.Stores Attribute.subtaskName v) : Harmless t m Harmful (r.apply ad) := by
  rcases harmless with marked | free
  · obtain ⟨own, shared⟩ := latch_of_tuning options tuned
    exact .inl (closed_own makes fixed own shared marked)
  · right
    obtain ⟨v, stores⟩ := tasked
    have kept := stores.of_get?_eq (makes.get?_task fixed ad)
    rwa [kept.evalAttr, ← stores.evalAttr]

def Recorded (t : Tuning) (ad : JobAd) : Prop :=
  (∃ v, ad.Stores Attribute.subtaskName v) ∧ ∃ v, ad.Stores t.marker v

theorem Recorded.apply (recorded : Recorded t ad) (tuned : (f, t, m) ∈ p.tunings)
    (makes : p.Makes options g r) (fixed : g ≠ .reset) : Recorded t (r.apply ad) := by
  obtain ⟨⟨v, task⟩, w, marker⟩ := recorded
  refine ⟨⟨v, task.of_get?_eq (makes.get?_task fixed ad)⟩, ?_⟩
  obtain ⟨own, shared⟩ := latch_of_tuning options tuned
  by_cases same : g = f
  · subst same
    exact ⟨_, .inl ((makes.latches shared).closes ad)⟩
  · have known := writers_of_ownLatched own shared
    refine ⟨w, marker.of_get?_eq (Rule.get?_apply_of_not_writes ad ?_)⟩
    exact makes.not_writes fixed known (by simpa using same)

theorem holds_apply (corrects : c.Corrects p options f t attr Right Harmful)
    (tuned : (f, t, m) ∈ p.tunings) (makes : p.Makes options g r) (fits : r.matchesAd ad = true)
    (harmless : Harmless t m Harmful ad) (holds : ad.Holds attr Right) :
    (r.apply ad).Holds attr Right := by
  by_cases same : g = f
  · subst same
    obtain ⟨threshold, selector, task, rfl, named, gives⟩ := makes.exists_gives tuned fits
    obtain ⟨_, unmarked, _⟩ := Tuning.matchesAd_rule_iff.1 fits
    rcases harmless with marked | free
    · exact absurd marked.evalAttr unmarked
    · exact corrects.tunes threshold selector ad (free task threshold named gives)
  · exact corrects.others g r ad makes same fits holds

theorem spends_of_corrects {picks : Rule → Bool} (empty : p.resetRouting = [])
    (tuned : (f, t, m) ∈ p.tunings) (early : f.category.position < g.category.position)
    (behind : Category.release.position < g.category.position)
    (picked : ∀ h r, p.Makes options h r → picks r = true → h = g ∧ r = c)
    (corrects : c.Corrects p options f t attr Right Harmful) (spares : p.Spares m Harmful) :
    (p.compile options).rules.Spends picks (Recorded t)
      fun ad => ad.Holds attr Right ∧ Harmless t m Harmful ad where
  kept := by
    intro r ad first recorded
    obtain ⟨h, makes⟩ := mem_compile_iff.1 (RuleSet.of_firstMatch?_eq_some first).1
    exact recorded.apply tuned makes (makes.ne_reset empty)
  spends := by
    intro r ad first recorded own
    obtain ⟨h, makes⟩ := mem_compile_iff.1 (RuleSet.of_firstMatch?_eq_some first).1
    obtain ⟨rfl, rfl⟩ := picked h r makes own
    have harmless := harmless_of_firstMatch? tuned makes first early behind spares recorded.2
    exact ⟨corrects.closes ad, harmless.apply tuned makes (makes.ne_reset empty) recorded.1⟩
  stays := by
    rintro r ad first recorded ⟨holds, harmless⟩
    obtain ⟨member, fits⟩ := RuleSet.of_firstMatch?_eq_some first
    obtain ⟨h, makes⟩ := mem_compile_iff.1 member
    refine ⟨?_, holds_apply corrects tuned makes fits harmless holds,
      harmless.apply tuned makes (makes.ne_reset empty) recorded.1⟩
    rw [Bool.eq_false_iff]
    intro own
    obtain ⟨_, rfl⟩ := picked h r makes own
    rw [corrects.blocks ad holds] at fits
    cases fits

theorem Spares.mono {Harmful' : Int64 → Prop} (spares : p.Spares m Harmful)
    (fewer : ∀ threshold, Harmful' threshold → Harmful threshold) : p.Spares m Harmful' :=
  fun task threshold only harmful => spares task threshold only (fewer threshold harmful)

/-! ### Corrections of memory -/

theorem Makes.stores_memory {i : Int64} (makes : p.Makes options g r) (fixed : g ≠ .reset)
    (other : g ≠ .memory) (fits : r.matchesAd ad = true)
    (closed : Latch.Closed ⟨Attribute.originalMemory, .int i⟩ ad) :
    ∃ j, Latch.Closed ⟨Attribute.originalMemory, .int j⟩ (r.apply ad) ∧
      (j = i ∨ j = t0MemoryCap ∨ (i = 22092 ∧ j = 18000) ∨ (i = 23260 ∧ j = 19500)) := by
  by_cases fix : g = .memoryFix
  · subst fix
    have wrong : ∀ wrong right, (memoryRule wrong right).matchesAd ad = true → i = wrong := by
      intro wrong right fits
      by_contra different
      exact not_closed_of_memoryRule different fits closed
    rcases makes.of_memoryFix with rfl | rfl
    · refine ⟨18000, (latches_memoryRule (by decide)).closes ad, ?_⟩
      exact .inr (.inr (.inl ⟨wrong _ _ fits, rfl⟩))
    · refine ⟨19500, (latches_memoryRule (by decide)).closes ad, ?_⟩
      exact .inr (.inr (.inr ⟨wrong _ _ fits, rfl⟩))
  by_cases t0 : g = .t0Memory
  · subst t0
    exact ⟨t0MemoryCap, (makes.latches rfl).closes ad, .inr (.inl rfl)⟩
  · have known : (Attribute.originalMemory, [Family.memory, .memoryFix, .t0Memory]) ∈
        Family.writers := by
      simp [Family.writers]
    exact ⟨i, makes.keeps fixed known (by simp [other, fix, t0]) closed, .inl rfl⟩

theorem get?_apply_memory (threshold : Int64) (selector : Expr) (ad : JobAd) :
    ((Tuning.memory.rule threshold selector).apply ad).get? Attribute.originalMemory =
      some (.lit (.int threshold)) := by
  apply Rule.get?_apply_set ad (List.nil_append _).symm (by simp [Tuning.memory])
  exact Rule.any_markers_make_eq_false (by decide +kernel) (by decide +kernel)

theorem corrects_memory {right : Int64} (empty : p.resetRouting = [])
    (latched : c.Latches ⟨Attribute.originalMemory, .int right⟩)
    (matched : ∀ ad i, Latch.Closed ⟨Attribute.originalMemory, .int i⟩ ad →
      c.matchesAd ad = true → Harmful i)
    (unharmed : ¬ Harmful right ∧ ¬ Harmful t0MemoryCap)
    (first : ¬ Harmful 22092 → ¬ Harmful 18000) (second : ¬ Harmful 23260 → ¬ Harmful 19500) :
    c.Corrects p options .memory .memory Attribute.originalMemory
      (fun v => ∃ i, ¬ Harmful i ∧ v = .int i) Harmful where
  closes ad := ⟨_, ⟨right, unharmed.1, rfl⟩, latched.closes ad⟩
  blocks := by
    rintro ad ⟨_, ⟨i, unharmed, rfl⟩, bound⟩
    rw [Bool.eq_false_iff]
    intro fits
    exact unharmed (matched ad i bound fits)
  tunes threshold selector ad unharmed :=
    ⟨_, ⟨threshold, unharmed, rfl⟩, get?_apply_memory threshold selector ad⟩
  others := by
    rintro g r ad makes other fits ⟨_, ⟨i, harmless, rfl⟩, bound⟩
    obtain ⟨j, closed, change⟩ := makes.stores_memory (makes.ne_reset empty) other fits bound
    refine ⟨_, ⟨j, ?_, rfl⟩, closed⟩
    rcases change with rfl | rfl | ⟨rfl, rfl⟩ | ⟨rfl, rfl⟩
    · exact harmless
    · exact unharmed.2
    · exact first harmless
    · exact second harmless

theorem corrects_memoryRule {wrong right : Int64} (empty : p.resetRouting = [])
    (different : right ≠ wrong ∧ t0MemoryCap ≠ wrong) (first : 22092 ≠ wrong → 18000 ≠ wrong)
    (second : 23260 ≠ wrong → 19500 ≠ wrong) :
    (memoryRule wrong right).Corrects p options .memory .memory Attribute.originalMemory
      (fun v => ∃ i, ¬ i = wrong ∧ v = .int i) fun threshold => threshold = wrong := by
  refine corrects_memory empty (latches_memoryRule different.1) ?_ different first second
  intro ad i closed fits
  by_contra other
  exact not_closed_of_memoryRule other fits closed

theorem corrects_t0MemoryRule (empty : p.resetRouting = []) :
    t0MemoryRule.Corrects p options .memory .memory Attribute.originalMemory
      (fun v => ∃ i, ¬ t0MemoryCap < i ∧ v = .int i) fun threshold => t0MemoryCap < threshold := by
  refine corrects_memory empty latches_t0MemoryRule ?_ (by decide) (by decide) (by decide)
  intro ad i closed fits
  have exceeds := Guard.holds_iff.1 fits _ List.mem_cons_self
  have value : ad.evalAttr Attribute.originalMemory = .int i := closed.evalAttr
  rw [JobAd.eval_compareTo, AttrRef.name_plain, value] at exceeds
  exact Comparison.order_gt_int_iff.1 exceeds

/-! ### The correction of the wall time -/

/-- The comparison of the value with the cap for the site does not say that it exceeds it. -/
def WithinCap (v : Value) : Prop :=
  (Comparison.order .gt).apply v (.int kitWallTimeCap) ≠ .bool true

def quotient (i : Int64) (divisor : Value) : Value :=
  ((Value.int i).strict? divisor).getD (ArithmeticOp.div.apply (.int i) divisor)

theorem quotient_real (i : Int64) (x : Binary64) :
    quotient i (.real x) =
      if x.equal (.zero false) then .error else .real ((Binary64.ofInt i.toInt).div x) := by
  cases zero : x.equal (.zero false) <;>
    simp [quotient, Value.strict?, Value.isError, Value.isUndefined, ArithmeticOp.apply,
      Value.real?, ArithmeticOp.onReals, zero]

theorem withinCap_quotient_zero (v : Value) : WithinCap (quotient 0 v) := by
  have error : WithinCap .error := by
    simp [WithinCap, Comparison.apply, Value.strict?, Value.isError]
  cases v with
  | int b =>
      change WithinCap (.ofInt? (Integer.div? 0 b))
      by_cases zero : b = 0
      · rw [Integer.div?, if_pos zero]
        exact error
      · have nothing : Integer.div? 0 b = some 0 := by
          rw [Integer.div?, if_neg zero, Integer.ofInt?_eq_some_iff]
          simp
        rw [nothing, Value.ofInt?, WithinCap, Ne, Comparison.order_gt_int_iff]
        decide
  | real b =>
      have nothing : Binary64.ofInt (0 : Int64).toInt = .zero false := by
        decide +kernel
      have low : ∀ negative,
          (Binary64.zero negative).order? (.ofInt kitWallTimeCap.toInt) ≠ some .gt := by
        decide +kernel
      have unordered : Binary64.nan.order? (.ofInt kitWallTimeCap.toInt) = none := rfl
      rw [quotient_real]
      split
      · exact error
      · rw [nothing, WithinCap, Ne, Comparison.order_gt_real_iff]
        rcases Binary64.zero_div b with none | ⟨negative, zero⟩
        · rw [none, unordered]
          simp
        · rw [zero]
          exact low negative
  | undefined => simp [WithinCap, quotient, Value.strict?, Value.isError, Value.isUndefined,
      Comparison.apply]
  | _ => exact error

theorem get?_apply_time (threshold : Int64) (selector : Expr) (ad : JobAd) :
    ((Tuning.time.rule threshold selector).apply ad).get? Attribute.originalMaxWallTime =
      some (.lit (quotient threshold
        ((ad.assign Attribute.estimatedSingleCoreMins (.int threshold)).evalAttr
          Attribute.originalCpus))) := by
  have split : (Tuning.time.rule threshold selector).mutations =
      [.set Attribute.estimatedSingleCoreMins (.int threshold)] ++
        .evalSet Attribute.originalMaxWallTime
          (.named Attribute.estimatedSingleCoreMins / .named Attribute.originalCpus) :: [] := rfl
  generalize tuned : ad.assign Attribute.estimatedSingleCoreMins (.int threshold) = later
  have minutes : later.evalAttr Attribute.estimatedSingleCoreMins = .int threshold := by
    apply JobAd.evalAttr_of_lit
    rw [← tuned, JobAd.get?_assign, if_pos rfl]
  have value : later.eval
      (.named Attribute.estimatedSingleCoreMins / .named Attribute.originalCpus) =
        quotient threshold (later.evalAttr Attribute.originalCpus) :=
    congrArg (fun v => (v.strict? (later.evalAttr Attribute.originalCpus)).getD
      (ArithmeticOp.div.apply v (later.evalAttr Attribute.originalCpus))) minutes
  rw [Rule.get?_apply_last ad split (by simp)
    (Rule.any_markers_make_eq_false (by decide +kernel) (by decide +kernel)), List.foldl_cons,
    List.foldl_nil, ← value, ← tuned]
  exact (JobAd.get?_assign _ _ _ _).trans (if_pos rfl)

theorem corrects_wallTime (empty : p.resetRouting = []) :
    wallTimeRule.Corrects p options .time .time Attribute.originalMaxWallTime WithinCap
      fun threshold => threshold ≠ 0 where
  closes ad := by
    refine ⟨_, ?_, latches_wallTimeRule.closes ad⟩
    exact Comparison.order_int_self_ne_true rfl
  blocks := by
    rintro ad ⟨v, within, bound⟩
    apply Rule.not_matchesAd_of_clause (List.mem_cons_of_mem _ List.mem_cons_self)
    rw [JobAd.eval_compareTo, AttrRef.name_plain, JobAd.evalAttr_of_lit bound]
    exact within
  tunes threshold selector ad harmless := by
    obtain rfl := not_ne_iff.1 harmless
    exact ⟨_, withinCap_quotient_zero _, get?_apply_time 0 selector ad⟩
  others := by
    rintro g r ad makes other fits ⟨v, within, bound⟩
    by_cases own : g = .wallTime
    · subst own
      refine ⟨_, ?_, (makes.latches rfl).closes ad⟩
      exact Comparison.order_int_self_ne_true rfl
    · have known : (Attribute.originalMaxWallTime, [Family.time, .wallTime]) ∈ Family.writers := by
        simp [Family.writers]
      exact ⟨v, within, makes.keeps (makes.ne_reset empty) known (by simp [other, own]) bound⟩

end Policy

end RoutingPolicy

import RoutingPolicy.Proofs.Compile.Corrections

/-!
# Corrections that act twice

Where a section gives a task one threshold only, and that is a value to be corrected, a correction
acts twice on some job of the task. The job has the value already, so the section leaves it alone at
first; the correction takes the value away, the section gives it back, and the correction finds the
job as it was before. All else on the job is settled beforehand, so that no other rule comes
between. So in runs without resets all corrections act once exactly if the policy spares them.
-/

namespace RoutingPolicy

set_option autoImplicit false

open Compile Compile.Overflow Compile.Hold Compile.Ranking Compile.Correction

theorem RuleSet.two_le_count_run {s : RuleSet} {c q : Rule} {ad : JobAd}
    (first : s.firstMatch? ad = some c) (second : s.firstMatch? (c.apply ad) = some q)
    (third : s.firstMatch? (q.apply (c.apply ad)) = some c) :
    2 ≤ (s.run 3 ad).1.fired.count c.name := by
  rw [fired_run, firedRules_of_firstMatch? first, firedRules_of_firstMatch? second,
    firedRules_of_firstMatch? third]
  simp [firedRules, List.count_cons]

/-! ### Jobs on which little is left to do -/

theorem JobAd.evalAttr_of_product {ad : JobAd} {name left right : String} {i : Int64} {x : Binary64}
    (bound : ad.get? name = some (.named left * .named right))
    (first : ad.get? left = some (.lit (.int i))) (second : ad.get? right = some (.lit (.real x))) :
    ad.evalAttr name = .real ((Binary64.ofInt i.toInt).mul x) := by
  have leftValue : ad.readAt 31 left = .int i := by
    rw [JobAd.readAt, first]
    rfl
  have rightValue : ad.readAt 31 right = .real x := by
    rw [JobAd.readAt, second]
    rfl
  have product : ad.evalAttr name =
      ((ad.readAt 31 left).strict? (ad.readAt 31 right)).getD
        (ArithmeticOp.mul.apply (ad.readAt 31 left) (ad.readAt 31 right)) := by
    change ad.readAt 32 name = _
    rw [JobAd.readAt, bound]
    rfl
  rw [product, leftValue, rightValue]
  rfl

namespace Family

def fixers : Family → List Family
  | memory => [memoryFix, t0Memory]
  | time => [wallTime]
  | _ => []

def tuners (f : Family) : List Family := f :: f.fixers

/-- The families whose latch is closed on a job on which they have nothing left to do. -/
def latched : List Family := Policy.ownLatched ++ [t0Memory, wallTime]

variable {f g : Family}

theorem of_mem_tuners (corrected : f ∈ [memory, time]) (tuner : g ∈ f.tuners) :
    g ≠ .reset ∧ g ∉ siteWriters ∧ g ∉ [hold, release] := by
  have table : ∀ f ∈ [memory, time], ∀ g ∈ f.tuners,
      g ≠ .reset ∧ g ∉ siteWriters ∧ g ∉ [hold, release] := by
    decide
  exact table f corrected g tuner

theorem of_mem_fixers (corrected : f ∈ [memory, time]) (fixer : g ∈ f.fixers) :
    g ≠ f ∧ f.category.position < g.category.position ∧ g.category = .adHoc := by
  have table : ∀ f ∈ [memory, time], ∀ g ∈ f.fixers,
      g ≠ f ∧ f.category.position < g.category.position ∧ g.category = .adHoc := by
    decide
  exact table f corrected g fixer

theorem exists_writers_of_latched {options : CompileOptions} {latch : Latch}
    (corrected : f ∈ [memory, time]) (listed : g ∈ latched) (other : g ∉ f.tuners)
    (shared : g.latch? options = some latch) :
    ∃ families, (latch.attr, families) ∈ writers ∧ ∀ h ∈ f.tuners, h ∉ families := by
  rcases List.mem_append.1 listed with own | shares
  · refine ⟨[g], Policy.writers_of_ownLatched own shared, ?_⟩
    rintro h tuner member
    obtain rfl := List.mem_singleton.1 member
    exact other tuner
  · simp only [List.mem_cons, List.not_mem_nil, or_false] at corrected shares
    rcases shares with rfl | rfl <;> cases shared <;> rcases corrected with rfl | rfl
    · exact absurd (by decide) other
    · exact ⟨[memory, memoryFix, t0Memory], by simp [writers], by decide⟩
    · exact ⟨[time, wallTime], by simp [writers], by decide⟩
    · exact absurd (by decide) other

end Family

theorem SiteName.mem_toList (site : SiteName) :
    'T' ∈ site.text.toList ∧ '_' ∈ site.text.toList := by
  obtain ⟨_, _, _, _, _, spelled⟩ := site.exists_isSpelled
  rw [spelled.characters]
  simp

/-- A whitelist that no rule on a site matches, nor the correction of whitelists. -/
structure Barren (sites : String) : Prop where
  siteless : ¬ ('T' ∈ sites.toList ∧ '_' ∈ sites.toList)
  elsewhere : Text.sameIgnoringCase sites "T2_ES_IFCA" = false

namespace Policy

variable {p : Policy} {options : CompileOptions} {f g : Family} {r c : Rule} {t : Tuning}
  {m : ThresholdMap} {threshold : Int64} {task sites : String} {ad : JobAd}

/-- Of all rules only those of the section and of its corrections can match the job. -/
structure Idle (p : Policy) (options : CompileOptions) (f : Family) (task sites : String)
    (ad : JobAd) : Prop where
  named : ad.get? Attribute.subtaskName = some (.lit (.str task))
  located : ad.get? Attribute.desiredSites = some (.lit (.str sites))
  latched : ∀ g ∈ Family.latched, g ∉ f.tuners → ∀ latch, g.latch? options = some latch →
    latch.Closed ad
  held : ∃ flag : Bool, ad.get? Marker.hasBeenSetHeld = some (.lit (.bool flag)) ∧
    ¬ Spells (if flag then p.release.toList else p.heldTasks) task
  unheld : ∀ site, ad.get? (Marker.heldFrom site) = none

theorem Idle.not_matchesAd_of_task (idle : p.Idle options f task sites ad)
    (own : g ∈ [Family.hold, .release]) (makes : p.Makes options g r) : r.matchesAd ad = false := by
  obtain ⟨flag, stored, unspelled⟩ := idle.held
  have held := JobAd.evalAttr_of_lit stored
  have named := JobAd.evalAttr_of_lit idle.named
  rw [Bool.eq_false_iff]
  intro fits
  simp only [List.mem_cons, List.not_mem_nil, or_false] at own
  rcases own with rfl | rfl
  · obtain ⟨selector, selects, rfl⟩ := makes.of_hold
    obtain ⟨untrue, selected⟩ := matchesAd_holdTasksRule_iff.1 fits
    rw [held, Ne, Value.bool.injEq] at untrue
    rw [if_neg untrue] at unspelled
    exact unspelled ((eval_selector_iff_spells selects named).1 selected)
  · obtain ⟨selector, selects, rfl⟩ := makes.of_release
    obtain ⟨truth, selected⟩ := matchesAd_releaseTasksRule_iff.1 fits
    rw [held, Value.bool.injEq] at truth
    rw [if_pos truth] at unspelled
    exact unspelled ((eval_selector_iff_spells selects named).1 selected)

theorem Idle.not_matchesAd_of_site (idle : p.Idle options f task sites ad) (barren : Barren sites)
    (own : g ∈ [Family.holdSite, .releaseSite]) (makes : p.Makes options g r) :
    r.matchesAd ad = false := by
  rw [Bool.eq_false_iff]
  intro fits
  simp only [List.mem_cons, List.not_mem_nil, or_false] at own
  rcases own with rfl | rfl
  · obtain ⟨site, _, rfl⟩ := makes.of_holdSite
    obtain ⟨mentioned, _⟩ := matchesAd_holdSiteRule_iff.1 fits
    rw [JobAd.evalAttr_of_lit idle.located, SiteName.matchesPattern_iff] at mentioned
    obtain ⟨letter, line⟩ := site.mem_toList
    exact barren.siteless ⟨mentioned.2.subset letter, mentioned.2.subset line⟩
  · obtain ⟨site, _, rfl⟩ := makes.of_releaseSite
    have marked := matchesAd_releaseSiteRule_iff.1 fits
    rw [JobAd.evalAttr_of_unbound (idle.unheld site)] at marked
    cases marked

theorem Idle.not_matchesAd_of_memory (idle : p.Idle options f task sites ad)
    (corrected : f ∈ [Family.memory, .time]) (other : Family.memoryFix ∉ f.tuners)
    (makes : p.Makes options .memoryFix r) : r.matchesAd ad = false := by
  have capped : Latch.Closed ⟨Attribute.originalMemory, .int t0MemoryCap⟩ ad := by
    apply idle.latched .t0Memory (by decide) _ _ rfl
    simp only [List.mem_cons, List.not_mem_nil, or_false] at corrected
    rcases corrected with rfl | rfl
    · exact absurd (by decide) other
    · decide
  rw [Bool.eq_false_iff]
  intro fits
  rcases makes.of_memoryFix with rfl | rfl <;>
    exact not_closed_of_memoryRule (by decide) fits capped

theorem Idle.mem_tuners (idle : p.Idle options f task sites ad) (empty : p.resetRouting = [])
    (barren : Barren sites) (corrected : f ∈ [Family.memory, .time]) (makes : p.Makes options g r)
    (fits : r.matchesAd ad = true) : g ∈ f.tuners := by
  by_contra other
  have matched : ¬ r.matchesAd ad = false := by
    simp [fits]
  by_cases listed : g ∈ Family.latched
  · have shared : ∃ latch, g.latch? options = some latch := by
      cases g <;> first | exact ⟨_, rfl⟩ | exact absurd listed (by decide)
    obtain ⟨latch, shared⟩ := shared
    exact matched ((makes.latches shared).blocks ad (idle.latched g listed other latch shared))
  have rest : ∀ g ∈ Family.all, g ∉ Family.latched → g ∈ [Family.hold, .release] ∨
      g ∈ [Family.holdSite, .releaseSite] ∨ g = .memoryFix ∨ g = .multicore ∨ g = .reset := by
    decide
  rcases rest g g.mem_all listed with own | own | rfl | rfl | rfl
  · exact matched (idle.not_matchesAd_of_task own makes)
  · exact matched (idle.not_matchesAd_of_site barren own makes)
  · exact matched (idle.not_matchesAd_of_memory corrected other makes)
  · obtain rfl := makes.of_multicore
    have same := sameIgnoringCase_of_multicoreRule fits (JobAd.evalAttr_of_lit idle.located)
    rw [barren.elsewhere] at same
    cases same
  · exact makes.ne_reset empty rfl

theorem Idle.apply (idle : p.Idle options f task sites ad)
    (corrected : f ∈ [Family.memory, .time]) (makes : p.Makes options g r) (tuner : g ∈ f.tuners) :
    p.Idle options f task sites (r.apply ad) := by
  obtain ⟨fixed, siteless, unheld⟩ := Family.of_mem_tuners corrected tuner
  have kept : ∀ name families, (name, families) ∈ Family.writers → g ∉ families →
      (r.apply ad).get? name = ad.get? name :=
    fun name families known other =>
      Rule.get?_apply_of_not_writes ad (makes.not_writes fixed known other)
  constructor
  · exact (makes.get?_task fixed ad).trans idle.named
  · exact (kept _ Family.siteWriters (by simp [Family.writers]) siteless).trans idle.located
  · intro h listed other latch shared
    obtain ⟨families, known, apart⟩ :=
      Family.exists_writers_of_latched corrected listed other shared
    exact makes.keeps fixed known (apart g tuner) (idle.latched h listed other latch shared)
  · obtain ⟨flag, stored, unspelled⟩ := idle.held
    have unchanged := kept Marker.hasBeenSetHeld [.hold, .release] (by simp [Family.writers]) unheld
    exact ⟨flag, unchanged.trans stored, unspelled⟩
  · intro site
    rw [Rule.get?_apply_of_not_writes ad (makes.not_writes_heldFrom fixed _)]
    · exact idle.unheld site
    · intro other on
      exfalso
      apply siteless
      rcases on with ⟨own, _⟩ | ⟨own, _⟩
      · rw [makes.eq_holdSite own]
        decide
      · rw [makes.eq_releaseSite own]
        decide

/-! ### Cycles that a correction closes -/

theorem exists_firstMatch? (makes : p.Makes options f r) (fits : r.matchesAd ad = true) :
    ∃ g c, (p.compile options).rules.firstMatch? ad = some c ∧ p.Makes options g c ∧
      c.matchesAd ad = true := by
  cases first : (p.compile options).rules.firstMatch? ad with
  | none =>
      have unmatched := RuleSet.firstMatch?_isNone_iff.1 (Option.isNone_iff_eq_none.2 first) r
        (mem_compile_iff.2 ⟨f, makes⟩)
      rw [unmatched] at fits
      cases fits
  | some c =>
      obtain ⟨member, fits⟩ := RuleSet.of_firstMatch?_eq_some first
      obtain ⟨g, makes⟩ := mem_compile_iff.1 member
      exact ⟨g, c, rfl, makes, fits⟩

theorem mem_corrections_of_makes (makes : p.Makes options f r) (adHoc : f.category = .adHoc) :
    r ∈ corrections := by
  have table : corrections = fixes.map Prod.snd := rfl
  rw [table]
  exact List.mem_map_of_mem (makes.mem_fixes adHoc)

theorem not_matchesAd_of_givesOnly (tuned : (f, t, m) ∈ p.tunings)
    (only : m.GivesOnly task threshold) (named : ad.evalAttr Attribute.subtaskName = .str task)
    (value : ad.evalAttr t.attr = .int threshold) (makes : p.Makes options f r) :
    r.matchesAd ad = false := by
  rw [Bool.eq_false_iff]
  intro fits
  obtain ⟨other, selector, task', rfl, named', gives⟩ := makes.exists_gives tuned fits
  rw [named] at named'
  cases named'
  obtain rfl := (only other).1 gives
  exact (Tuning.matchesAd_rule_iff.1 fits).2.2 value

/-- Where the section leaves the job alone and yet some rule matches, a correction is first. -/
theorem Idle.exists_fixer (idle : p.Idle options f task sites ad) (empty : p.resetRouting = [])
    (barren : Barren sites) (corrected : f ∈ [Family.memory, .time])
    (left : ∀ r, p.Makes options f r → r.matchesAd ad = false)
    (matched : ∃ g c, p.Makes options g c ∧ c.matchesAd ad = true) :
    ∃ g c, (p.compile options).rules.firstMatch? ad = some c ∧ p.Makes options g c ∧
      c.matchesAd ad = true ∧ g ∈ f.fixers := by
  obtain ⟨_, _, makes, fits⟩ := matched
  obtain ⟨g, c, first, makes, fits⟩ := exists_firstMatch? makes fits
  refine ⟨g, c, first, makes, fits, ?_⟩
  rcases List.mem_cons.1 (idle.mem_tuners empty barren corrected makes fits) with rfl | fixer
  · rw [left c makes] at fits
    cases fits
  · exact fixer

theorem Idle.exists_threshold (idle : p.Idle options f task sites ad) (empty : p.resetRouting = [])
    (barren : Barren sites) (corrected : f ∈ [Family.memory, .time])
    (tuned : (f, t, m) ∈ p.tunings) (only : m.GivesOnly task threshold)
    (unmarked : ad.get? t.marker = none) (other : ad.evalAttr t.attr ≠ .int threshold) :
    ∃ selector, (p.compile options).rules.firstMatch? ad = some (t.rule threshold selector) ∧
      p.Makes options f (t.rule threshold selector) := by
  have named := JobAd.evalAttr_of_lit idle.named
  obtain ⟨selector, tunes, selected⟩ := exists_makes_of_gives tuned ((only threshold).2 rfl) named
  have given : (t.rule threshold selector).matchesAd ad = true := by
    rw [Tuning.matchesAd_rule_iff, JobAd.evalAttr_of_unbound unmarked]
    exact ⟨selected, by simp, other⟩
  obtain ⟨g, q, first, makes, fits⟩ := exists_firstMatch? tunes given
  obtain rfl : g = f := by
    rcases List.mem_cons.1 (idle.mem_tuners empty barren corrected makes fits) with same | fixer
    · exact same
    · have missed := not_matchesAd_of_earlier makes tunes first
        (Family.of_mem_fixers corrected fixer).2.1
      rw [given] at missed
      cases missed
  obtain ⟨threshold', selector', task', rfl, named', gives⟩ := makes.exists_gives tuned fits
  rw [named] at named'
  cases named'
  obtain rfl := (only threshold').1 gives
  exact ⟨selector', first, makes⟩

/-- On wrong jobs some correction matches, the same on all of them. It takes the threshold away, and
where the section gives that back the job is wrong again. -/
structure Undoes (p : Policy) (options : CompileOptions) (f : Family) (t : Tuning)
    (threshold : Int64) (Wrong : JobAd → Prop) : Prop where
  corrected : ∀ ad, Wrong ad → ∃ g c, p.Makes options g c ∧ c.matchesAd ad = true
  alike : ∀ g c ad ad', p.Makes options g c → g ∈ f.fixers → Wrong ad → Wrong ad' →
    c.matchesAd ad = true → c.matchesAd ad' = true
  departs : ∀ g c ad, p.Makes options g c → g ∈ f.fixers → Wrong ad →
    c.matchesAd ad = true → (c.apply ad).evalAttr t.attr ≠ .int threshold
  returns : ∀ g c ad selector, p.Makes options g c → g ∈ f.fixers →
    p.Makes options f (t.rule threshold selector) → Wrong ad →
      Wrong ((t.rule threshold selector).apply (c.apply ad))

theorem exists_two_le_count {Wrong : JobAd → Prop} (empty : p.resetRouting = [])
    (tuned : (f, t, m) ∈ p.tunings) (corrected : f ∈ [Family.memory, .time])
    (only : m.GivesOnly task threshold) (undoes : p.Undoes options f t threshold Wrong)
    (barren : Barren sites) (idle : p.Idle options f task sites ad)
    (unmarked : ad.get? t.marker = none) (value : ad.evalAttr t.attr = .int threshold)
    (wrong : Wrong ad) :
    ∃ c ∈ corrections, 2 ≤ ((p.compile options).rules.run 3 ad).1.fired.count c.name := by
  obtain ⟨own, shared⟩ := latch_of_tuning options tuned
  have left : ∀ r, p.Makes options f r → r.matchesAd ad = false := fun r makes =>
    not_matchesAd_of_givesOnly tuned only (JobAd.evalAttr_of_lit idle.named) value makes
  obtain ⟨g, c, first, makes, fits, fixer⟩ :=
    idle.exists_fixer empty barren corrected left (undoes.corrected ad wrong)
  obtain ⟨different, _, adHoc⟩ := Family.of_mem_fixers corrected fixer
  have idle' := idle.apply corrected makes (List.mem_cons_of_mem _ fixer)
  have unmarked' : (c.apply ad).get? t.marker = none := by
    have kept := makes.not_writes (makes.ne_reset empty) (writers_of_ownLatched own shared)
      (by simpa using different)
    exact (Rule.get?_apply_of_not_writes ad kept).trans unmarked
  obtain ⟨selector, second, tunes⟩ := idle'.exists_threshold empty barren corrected tuned only
    unmarked' (undoes.departs g c ad makes fixer wrong fits)
  have idle'' := idle'.apply corrected tunes List.mem_cons_self
  have wrong' := undoes.returns g c ad selector makes fixer tunes wrong
  have left' : ∀ r, p.Makes options f r →
      r.matchesAd ((t.rule threshold selector).apply (c.apply ad)) = false := fun r again =>
    (again.latches shared).blocks _ ((tunes.latches shared).closes _)
  obtain ⟨g', c', third, again, fits', fixer'⟩ :=
    idle''.exists_fixer empty barren corrected left' (undoes.corrected _ wrong')
  obtain rfl : c' = c := find?_eq_find? third first
    (undoes.alike g' c' _ _ again fixer' wrong' wrong fits')
    (undoes.alike g c _ _ makes fixer wrong wrong' fits)
  exact ⟨c', mem_corrections_of_makes makes adHoc, RuleSet.two_le_count_run first second third⟩

theorem Makes.keeps_located (makes : p.Makes options g r) (corrected : f ∈ [Family.memory, .time])
    (tuner : g ∈ f.tuners)
    (located : ad.get? Attribute.desiredSites = some (.lit (.str sites))) :
    (r.apply ad).get? Attribute.desiredSites = some (.lit (.str sites)) := by
  obtain ⟨fixed, siteless, _⟩ := Family.of_mem_tuners corrected tuner
  have known : (Attribute.desiredSites, Family.siteWriters) ∈ Family.writers := by
    simp [Family.writers]
  exact makes.keeps fixed known siteless located

/-! ### Thresholds of memory above the cap of tier 0 -/

structure Oversized (threshold : Int64) (ad : JobAd) : Prop where
  memory : ad.evalAttr Attribute.originalMemory = .int threshold
  located : ad.get? Attribute.desiredSites = some (.lit (.str "T0"))

theorem matchesAd_memoryRule_iff {wrong right : Int64} :
    (memoryRule wrong right).matchesAd ad = true ↔
      ad.evalAttr Attribute.originalMemory = .int wrong := by
  rw [Rule.matchesAd, Guard.holds_iff]
  simp only [memoryRule, Rule.make, List.mem_singleton, forall_eq, JobAd.eval_compareTo,
    AttrRef.name_plain, Comparison.apply, Value.bool.injEq, Value.identical_int_iff]

theorem matchesAd_t0MemoryRule_iff :
    t0MemoryRule.matchesAd ad = true ↔
      (Comparison.order .gt).apply (ad.evalAttr Attribute.originalMemory) (.int t0MemoryCap) =
          .bool true ∧
        (ad.evalAttr Attribute.desiredSites).matchesPattern "T0" = .bool true := by
  rw [Rule.matchesAd, Guard.holds_iff]
  simp only [t0MemoryRule, Rule.make, List.mem_cons, List.not_mem_nil, or_false, forall_eq_or_imp,
    forall_eq, JobAd.eval_compareTo, JobAd.eval_matchesRegex, AttrRef.name_plain]

theorem matchesAd_iff_of_oversized {ad ad' : JobAd} (makes : p.Makes options g c)
    (fixer : g ∈ Family.memory.fixers) (oversized : Oversized threshold ad)
    (oversized' : Oversized threshold ad') : c.matchesAd ad = true ↔ c.matchesAd ad' = true := by
  simp only [Family.fixers, List.mem_cons, List.not_mem_nil, or_false] at fixer
  rcases fixer with rfl | rfl
  · rcases makes.of_memoryFix with rfl | rfl <;>
      rw [matchesAd_memoryRule_iff, matchesAd_memoryRule_iff, oversized.memory, oversized'.memory]
  · obtain rfl := makes.of_t0Memory
    rw [matchesAd_t0MemoryRule_iff, matchesAd_t0MemoryRule_iff, oversized.memory,
      oversized'.memory, JobAd.evalAttr_of_lit oversized.located,
      JobAd.evalAttr_of_lit oversized'.located]

theorem undoes_memory (adhoc : options.adhoc = true) (high : t0MemoryCap < threshold) :
    p.Undoes options .memory .memory threshold (Oversized threshold) where
  corrected := by
    intro ad oversized
    refine ⟨.t0Memory, t0MemoryRule, .fix adhoc (by simp [fixes]), ?_⟩
    rw [matchesAd_t0MemoryRule_iff, oversized.memory, JobAd.evalAttr_of_lit oversized.located]
    exact ⟨Comparison.order_gt_int_iff.2 high, Value.isTrue_iff.1 (by decide +kernel)⟩
  alike := by
    intro g c ad ad' makes fixer oversized oversized'
    exact (matchesAd_iff_of_oversized makes fixer oversized oversized').1
  departs := by
    -- With the same memory as before the rule would match the job that it leaves.
    intro g c ad makes fixer oversized fits value
    obtain ⟨latch, latches⟩ := makes.exists_latch
    have located := makes.keeps_located List.mem_cons_self (List.mem_cons_of_mem _ fixer)
      oversized.located
    rw [matchesAd_iff_of_oversized makes fixer oversized ⟨value, located⟩, latches.disabled] at fits
    cases fits
  returns := by
    intro g c ad selector makes fixer tunes oversized
    have located := makes.keeps_located List.mem_cons_self (List.mem_cons_of_mem _ fixer)
      oversized.located
    exact ⟨JobAd.evalAttr_of_lit (get?_apply_memory threshold selector _),
      tunes.keeps_located List.mem_cons_self List.mem_cons_self located⟩

/-! ### Thresholds of time other than zero -/

/-- A job at the site with the cap, whose wall time exceeds it. Its share of a core is so small that
any threshold does. -/
structure Overlong (threshold : Int64) (ad : JobAd) : Prop where
  located : ad.get? Attribute.desiredSites = some (.lit (.str "t1_de_kit"))
  exceeds : (Comparison.order .gt).apply (ad.evalAttr Attribute.originalMaxWallTime)
    (.int kitWallTimeCap) = .bool true
  cores : ad.get? Attribute.originalCpus =
    some (.lit (.real (.finite (decide (threshold.toInt < 0)) Magnitude.least)))

theorem matchesAd_wallTimeRule_iff :
    wallTimeRule.matchesAd ad = true ↔
      Comparison.equal.apply (ad.evalAttr Attribute.desiredSites) (.str "T1_DE_KIT") = .bool true ∧
        (Comparison.order .gt).apply (ad.evalAttr Attribute.originalMaxWallTime)
          (.int kitWallTimeCap) = .bool true := by
  rw [Rule.matchesAd, Guard.holds_iff]
  simp only [wallTimeRule, Rule.make, List.mem_cons, List.not_mem_nil, or_false, forall_eq_or_imp,
    forall_eq, JobAd.eval_compareTo, AttrRef.name_plain]

theorem get?_originalCpus_wallTimeRule (ad : JobAd) :
    (wallTimeRule.apply ad).get? Attribute.originalCpus = ad.get? Attribute.originalCpus :=
  Rule.get?_apply_of_not_writes ad (by decide +kernel)

theorem get?_originalCpus_time (threshold : Int64) (selector : Expr) (ad : JobAd) :
    ((Tuning.time.rule threshold selector).apply ad).get? Attribute.originalCpus =
      ad.get? Attribute.originalCpus := by
  have written : (Tuning.time.rule threshold selector).written =
      [Attribute.estimatedSingleCoreMins, Attribute.originalMaxWallTime, Marker.hasBeenTimingTuned,
        Marker.hasBeenRouted] := rfl
  apply Rule.get?_apply_of_not_writes
  rw [Rule.writes, written]
  decide +kernel

theorem matchesAd_wallTimeRule_of_overlong (overlong : Overlong threshold ad) :
    wallTimeRule.matchesAd ad = true := by
  have same : Text.sameIgnoringCase "t1_de_kit" "T1_DE_KIT" = true := by
    decide +kernel
  rw [matchesAd_wallTimeRule_iff, JobAd.evalAttr_of_lit overlong.located,
    Comparison.apply_equal_str, same]
  exact ⟨rfl, overlong.exceeds⟩

theorem exceeds_quotient_least (nonzero : threshold ≠ 0) :
    (Comparison.order .gt).apply (quotient threshold
      (.real (.finite (decide (threshold.toInt < 0)) Magnitude.least))) (.int kitWallTimeCap) =
        .bool true := by
  have filled : ∀ negative,
      (Binary64.finite negative Magnitude.least).equal (.zero false) = false := by
    decide +kernel
  have cap : (Binary64.ofInt kitWallTimeCap.toInt).position? =
      some ↑(1400 * Magnitude.unitsPerOne) := by
    decide +kernel
  have number : threshold.toInt ≠ 0 := by
    rw [← Int64.toInt_zero, Ne, Int64.toInt_inj]
    exact nonzero
  obtain ⟨units, place, large⟩ := Binary64.exists_position_div_least number
  have beyond : 1400 * Magnitude.unitsPerOne < units :=
    Nat.lt_of_lt_of_le (Nat.mul_lt_mul_of_pos_right (by decide) (by decide +kernel)) large
  rw [quotient_real, filled, if_neg Bool.false_ne_true, Comparison.order_gt_real_iff,
    Binary64.order?, place, cap]
  exact congrArg some (Std.compare_eq_gt.2 (Int.ofNat_lt.2 beyond))

theorem undoes_time (adhoc : options.adhoc = true) (nonzero : threshold ≠ 0) :
    p.Undoes options .time .time threshold (Overlong threshold) where
  corrected := by
    intro ad overlong
    exact ⟨.wallTime, wallTimeRule, .fix adhoc (by simp [fixes]),
      matchesAd_wallTimeRule_of_overlong overlong⟩
  alike := by
    intro g c ad ad' makes fixer _ overlong' _
    obtain rfl := List.mem_singleton.1 fixer
    obtain rfl := makes.of_wallTime
    exact matchesAd_wallTimeRule_of_overlong overlong'
  departs := by
    intro g c ad makes fixer overlong _ value
    obtain rfl := List.mem_singleton.1 fixer
    obtain rfl := makes.of_wallTime
    have minutes : (wallTimeRule.apply ad).get? Attribute.estimatedSingleCoreMins =
        some (.named Attribute.originalMaxWallTime * .named Attribute.originalCpus) := by
      apply Rule.get?_apply_set ad List.singleton_append.symm (by simp)
      decide +kernel
    have capped := latches_wallTimeRule.closes ad
    have cores := (get?_originalCpus_wallTimeRule ad).trans overlong.cores
    have product : (wallTimeRule.apply ad).evalAttr Tuning.time.attr = _ :=
      JobAd.evalAttr_of_product minutes capped cores
    rw [product] at value
    cases value
  returns := by
    intro g c ad selector makes fixer tunes overlong
    obtain rfl := List.mem_singleton.1 fixer
    obtain rfl := makes.of_wallTime
    have timed : Family.time ∈ [Family.memory, .time] := by
      decide
    have located := makes.keeps_located timed (by decide) overlong.located
    have cores := (get?_originalCpus_wallTimeRule ad).trans overlong.cores
    refine ⟨tunes.keeps_located timed List.mem_cons_self located, ?_,
      (get?_originalCpus_time threshold selector _).trans cores⟩
    have other : Text.foldCase Attribute.originalCpus ≠
        Text.foldCase Attribute.estimatedSingleCoreMins := by
      decide +kernel
    have read := ((wallTimeRule.apply ad).get?_assign Attribute.estimatedSingleCoreMins
      Attribute.originalCpus (.int threshold)).trans ((if_neg other).trans cores)
    rw [JobAd.evalAttr_of_lit (get?_apply_time threshold selector _), JobAd.evalAttr_of_lit read]
    exact exceeds_quotient_least nonzero

/-! ### Documents of such jobs -/

/-- The members of a job on which nothing is left to do but for a section and its corrections. -/
def idleMembers (options : CompileOptions) (f : Family) (task sites : String) (held : Bool) :
    List (String × Json) :=
  ((Family.latched.filter fun g => !f.tuners.contains g).filterMap (·.latch? options)).map
      (fun latch => (latch.attr, latch.value.toJson)) ++
    [(Attribute.subtaskName, .string task), (Attribute.desiredSites, .string sites),
      (Marker.hasBeenSetHeld, .bool held)]

theorem ofJson_ofInt (i : Int64) : Value.ofJson (.ofInt i.toInt) = .int i := by
  change Value.ofNumber (.integer i.toInt) = _
  rw [Value.ofNumber, Integer.ofInt?_eq_some_iff.2 rfl]

theorem ofJson_toJson_of_latch {latch : Latch} (shared : g.latch? options = some latch) :
    Value.ofJson latch.value.toJson = latch.value := by
  cases g <;> cases shared <;> first | rfl | exact ofJson_ofInt _

def idleNames (f : Family) : List String :=
  (Family.latched.filter fun g => !f.tuners.contains g).filterMap
      (fun g => (g.latch? .standard).map (·.attr)) ++
    [Attribute.subtaskName, Attribute.desiredSites, Marker.hasBeenSetHeld]

theorem map_fst_idleMembers (options : CompileOptions) (f : Family) (task sites : String)
    (held : Bool) : (idleMembers options f task sites held).map Prod.fst = idleNames f := by
  have same : ∀ g : Family,
      (g.latch? options).map (·.attr) = (g.latch? .standard).map (·.attr) := by
    intro g
    cases g <;> rfl
  rw [idleMembers, idleNames, List.map_append, List.map_map, List.map_filterMap]
  exact congrArg₂ _ (List.filterMap_congr fun g _ => same g) rfl

theorem exists_idle (options : CompileOptions) (f : Family) (sites : String)
    (own : List (String × Json)) (names : List String) (named : own.map Prod.fst = names)
    (distinct : ((idleNames f ++ names).map Text.foldCase).Nodup)
    (plain : ∀ name ∈ idleNames f ++ names, name ≠ "" ∧ Marker.isHeldFrom name = false)
    (apart : ¬ p.AlternatesOn task) :
    ∃ document ad, JobAd.ofJson document = .ok ad ∧ p.Idle options f task sites ad ∧
      (∀ e ∈ own, ad.get? e.1 = some (.lit (.ofJson e.2))) ∧
        ∀ name, Text.foldCase name ∉ (idleNames f ++ names).map Text.foldCase →
          ad.get? name = none := by
  obtain ⟨held, unspelled⟩ : ∃ held : Bool,
      ¬ Spells (if held then p.release.toList else p.heldTasks) task := by
    by_cases holds : Spells p.heldTasks task
    · exact ⟨true, fun releases => apart ⟨holds, releases⟩⟩
    · exact ⟨false, holds⟩
  have whole : (idleMembers options f task sites held ++ own).map Prod.fst =
      idleNames f ++ names := by
    rw [List.map_append, map_fst_idleMembers, named]
  have listed : ∀ e ∈ idleMembers options f task sites held ++ own, e.1 ∈ idleNames f ++ names := by
    intro e member
    rw [← whole]
    exact List.mem_map_of_mem member
  have folded : (idleMembers options f task sites held ++ own).map
      (fun e => Text.foldCase e.1) = (idleNames f ++ names).map Text.foldCase := by
    rw [← whole, List.map_map]
    rfl
  obtain ⟨ad, read⟩ := JobAd.exists_ofMembers .empty fun e member => (plain _ (listed e member)).1
  obtain ⟨bound, unbound⟩ := JobAd.get?_ofMembers (folded ▸ distinct) read
  rw [folded] at unbound
  have member : ∀ e ∈ idleMembers options f task sites held,
      ad.get? e.1 = some (.lit (.ofJson e.2)) :=
    fun e member => bound e (List.mem_append_left _ member)
  refine ⟨.object (idleMembers options f task sites held ++ own), ad, read, ?_,
    fun e member => bound e (List.mem_append_right _ member), unbound⟩
  constructor
  · exact member (Attribute.subtaskName, .string task) (by simp [idleMembers])
  · exact member (Attribute.desiredSites, .string sites) (by simp [idleMembers])
  · intro g latched other latch shared
    have picked : latch ∈ (Family.latched.filter fun g => !f.tuners.contains g).filterMap
        (·.latch? options) :=
      List.mem_filterMap.2 ⟨g, List.mem_filter.2 ⟨latched, by simpa using other⟩, shared⟩
    have closed := member (latch.attr, latch.value.toJson)
      (List.mem_append_left _ (List.mem_map.2 ⟨latch, picked, rfl⟩))
    rw [ofJson_toJson_of_latch shared] at closed
    exact closed
  · exact ⟨held, member (Marker.hasBeenSetHeld, .bool held) (by simp [idleMembers]), unspelled⟩
  · intro site
    refine (unbound (Marker.heldFrom site) ?_).trans rfl
    rw [List.mem_map]
    rintro ⟨name, known, same⟩
    have marked := Marker.isHeldFrom_congr (Text.sameIgnoringCase_iff.2 same)
    rw [(plain name known).2, Marker.isHeldFrom_heldFrom] at marked
    cases marked

theorem exists_two_le_count_of_memory (empty : p.resetRouting = []) (adhoc : options.adhoc = true)
    (only : p.memory.GivesOnly task threshold) (high : t0MemoryCap < threshold)
    (apart : ¬ p.AlternatesOn task) :
    ∃ document ad, JobAd.ofJson document = .ok ad ∧
      ∃ c ∈ corrections, 2 ≤ ((p.compile options).rules.run 3 ad).1.fired.count c.name := by
  obtain ⟨document, ad, read, idle, bound, unbound⟩ := exists_idle options .memory "T0"
    [(Attribute.originalMemory, .ofInt threshold.toInt)] [Attribute.originalMemory] rfl
    (by decide +kernel) (by decide +kernel) apart
  have memory := bound _ List.mem_cons_self
  rw [ofJson_ofInt] at memory
  have value := JobAd.evalAttr_of_lit memory
  have barren : Barren "T0" := ⟨by decide, by decide +kernel⟩
  refine ⟨document, ad, read, exists_two_le_count empty (by simp [tunings]) (by decide) only
    (undoes_memory adhoc high) barren idle ?_ value ⟨value, idle.located⟩⟩
  apply unbound
  decide +kernel

theorem exists_two_le_count_of_time (empty : p.resetRouting = []) (adhoc : options.adhoc = true)
    (only : p.time.GivesOnly task threshold) (nonzero : threshold ≠ 0)
    (apart : ¬ p.AlternatesOn task) :
    ∃ document ad, JobAd.ofJson document = .ok ad ∧
      ∃ c ∈ corrections, 2 ≤ ((p.compile options).rules.run 3 ad).1.fired.count c.name := by
  let least := Json.number (.real (decide (threshold.toInt < 0)) Magnitude.least)
  obtain ⟨document, ad, read, idle, bound, unbound⟩ := exists_idle options .time "t1_de_kit"
    [(Attribute.estimatedSingleCoreMins, .ofInt threshold.toInt),
      (Attribute.originalMaxWallTime, .ofInt (1401 : Int64).toInt), (Attribute.originalCpus, least)]
    [Attribute.estimatedSingleCoreMins, Attribute.originalMaxWallTime, Attribute.originalCpus] rfl
    (by decide +kernel) (by decide +kernel) apart
  simp only [List.forall_mem_cons, ofJson_ofInt] at bound
  obtain ⟨minutes, wallTime, cores, _⟩ := bound
  have barren : Barren "t1_de_kit" := ⟨by decide, by decide +kernel⟩
  have exceeds : (Comparison.order .gt).apply (ad.evalAttr Attribute.originalMaxWallTime)
      (.int kitWallTimeCap) = .bool true := by
    rw [JobAd.evalAttr_of_lit wallTime, Comparison.order_gt_int_iff]
    decide
  refine ⟨document, ad, read, exists_two_le_count empty (by simp [tunings]) (by decide) only
    (undoes_time adhoc nonzero) barren idle ?_ (JobAd.evalAttr_of_lit minutes)
    ⟨idle.located, exceeds, cores⟩⟩
  apply unbound
  decide +kernel

/-! ### Exactly the policies that spare corrections -/

/-- Without resets no run on a job that a document stands for applies a correction twice, exactly if
no threshold undoes one. -/
theorem corrections_act_once_iff (p : Policy) (options : CompileOptions)
    (empty : p.resetRouting = []) (adhoc : options.adhoc = true) :
    (∀ document ad, JobAd.ofJson document = .ok ad → ∀ limit, ∀ c ∈ corrections,
      ((p.compile options).rules.run limit ad).1.fired.count c.name ≤ 1) ↔ p.SparesCorrections := by
  constructor
  · intro once
    have never : ¬ ∃ document ad, JobAd.ofJson document = .ok ad ∧ ∃ c ∈ corrections,
        2 ≤ ((p.compile options).rules.run 3 ad).1.fired.count c.name := by
      rintro ⟨document, ad, read, c, listed, twice⟩
      have atMost := once document ad read 3 c listed
      omega
    constructor
    · intro task threshold only high
      by_contra apart
      exact never (exists_two_le_count_of_memory empty adhoc only high apart)
    · intro task threshold only nonzero
      by_contra apart
      exact never (exists_two_le_count_of_time empty adhoc only nonzero apart)
  · intro spares document ad read limit c listed
    exact count_corrections_le_one empty spares listed (JobAd.literal_of_ofJson read) limit

def cappedThresholds : Policy :=
  { empty with
    memory := (ThresholdMap.empty.insert 4000 ["/wf/A"]).insert 14800 ["/wf/B"]
    time := ThresholdMap.empty.insert 0 ["/wf/A"] }

theorem sparesCorrections_cappedThresholds : cappedThresholds.SparesCorrections where
  memory := by
    intro task threshold only high
    obtain ⟨tasks, listed, _⟩ := ThresholdMap.gives_iff.1 ((only threshold).2 rfl)
    have low : ∀ group ∈ cappedThresholds.memory.toList, ¬ t0MemoryCap < group.1 := by
      decide +kernel
    exact absurd high (low _ listed)
  time := by
    intro task threshold only nonzero
    obtain ⟨tasks, listed, _⟩ := ThresholdMap.gives_iff.1 ((only threshold).2 rfl)
    have zero : ∀ group ∈ cappedThresholds.time.toList, group.1 = 0 := by
      decide +kernel
    exact absurd (zero _ listed) nonzero

theorem corrections_act_once_cappedThresholds :
    cappedThresholds.resetRouting = [] ∧ CompileOptions.standard.adhoc = true ∧
      cappedThresholds.SparesCorrections ∧
        ∀ document ad, JobAd.ofJson document = .ok ad → ∀ limit, ∀ c ∈ corrections,
          ((cappedThresholds.compile .standard).rules.run limit ad).1.fired.count c.name ≤ 1 := by
  have spares := sparesCorrections_cappedThresholds
  exact ⟨rfl, rfl, spares, (corrections_act_once_iff cappedThresholds .standard rfl rfl).2 spares⟩

def wrongThreshold : Policy :=
  { empty with memory := ThresholdMap.empty.insert 22092 ["/wf/A"] }

theorem correction_acts_twice_wrongThreshold :
    wrongThreshold.resetRouting = [] ∧ CompileOptions.standard.adhoc = true ∧
      memoryRule 22092 18000 ∈ corrections ∧
        ∃ ad, JobAd.ofJson (.object [(Attribute.subtaskName, .string "/wf/A"),
            (Attribute.originalMemory, .ofInt 22092), (Marker.hasPrioCorrection, .bool true),
            (Marker.hasBeenSorted, .bool true)]) = .ok ad ∧
          ((wrongThreshold.compile .standard).rules.run 10 ad).1.fired =
            [(memoryRule 22092 18000).name, "Set memory requirement to 22092",
              (memoryRule 22092 18000).name] ∧
            ((wrongThreshold.compile .standard).rules.run 10 ad).1.fired.count
              (memoryRule 22092 18000).name = 2 := by
  refine ⟨rfl, rfl, List.mem_cons_self, _, rfl, ?_, ?_⟩ <;> decide +kernel

end Policy

end RoutingPolicy

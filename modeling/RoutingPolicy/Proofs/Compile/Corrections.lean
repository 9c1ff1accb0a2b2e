import RoutingPolicy.Proofs.Compile.Names
import RoutingPolicy.Proofs.Compile.OneShot
import RoutingPolicy.Proofs.Compile.Retuning

/-!
# Corrections that act once

A run that applies no reset applies a correction at most once, unless a threshold gives back what
the correction took away. The correction of the whitelist is safe in any case: what it takes out
comes back only with the release of a site, and a site that could come back then would have been
released before the correction. The correction for tier 0 has a marker. Corrections are told apart
by their names, which no other rule has.
-/

namespace RoutingPolicy

set_option autoImplicit false

open Compile Compile.Overflow Compile.Hold Compile.Ranking Compile.Correction

/-! ### Names of corrections -/

namespace Policy

variable {p : Policy} {options : CompileOptions} {f g : Family} {r c : Rule}

theorem category_of_mem_fixes (listed : (f, r) ∈ fixes) : f.category = .adHoc := by
  rcases of_mem_fixes listed with ⟨rfl, _⟩ | ⟨rfl, _⟩ | ⟨rfl, _⟩ | ⟨rfl, _⟩ | ⟨rfl, _⟩ |
    ⟨rfl, _⟩ <;> rfl

theorem Makes.mem_fixes (makes : p.Makes options f r) (adHoc : f.category = .adHoc) :
    (f, r) ∈ fixes := by
  cases makes with
  | fix _ listed => exact listed
  | tuning tuned _ _ =>
      rcases of_mem_tunings tuned with ⟨rfl, _⟩ | ⟨rfl, _⟩ | ⟨rfl, _⟩ | ⟨rfl, _⟩ <;> cases adHoc
  | _ => cases adHoc

theorem Makes.eq_of_name (makes : p.Makes options f r) (listed : (g, c) ∈ fixes)
    (same : r.name = c.name) : f = g ∧ r = c := by
  have begins := stem_of_mem_fixes listed
  rw [← same] at begins
  obtain rfl := Family.eq_of_stem makes.stem begins
  have distinct : (fixes.map (·.2.name)).Nodup := by
    decide +kernel
  have own := makes.mem_fixes (category_of_mem_fixes listed)
  exact Prod.mk.inj (List.inj_on_of_nodup_map distinct own listed same)

end Policy

/-! ### The correction of the whitelist -/

theorem Text.isSeparator_eq_false_of_toLower {c : Char}
    (plain : SiteList.isSeparator c.toLower = false) : SiteList.isSeparator c = false := by
  by_cases capital : 'A'.val ≤ c.val ∧ c.val ≤ 'Z'.val
  · apply SiteName.isSeparator_of_contains_charTable
    apply SiteName.contains_charTable_of_isNameChar
    simp only [isNameChar, isCapital, Bool.or_eq_true, Bool.and_eq_true, decide_eq_true_eq]
    exact .inl (.inl capital)
  · have same : c.toLower = c := dif_neg capital
    rwa [same] at plain

/-- The text mentions the site that jobs on several cores are moved away from, in any spelling. -/
def MentionsIfca (text : String) : Prop :=
  (Text.foldCase "T2_ES_IFCA").toList <:+: (Text.foldCase text).toList

theorem mentionsIfca_iff {list : String} :
    MentionsIfca list ↔ ∃ entry ∈ SiteList.entries list, MentionsIfca entry := by
  constructor
  · intro mentions
    have plain : (Text.foldCase "T2_ES_IFCA").toList.all (!SiteList.isSeparator ·) = true := by
      decide +kernel
    have filled : (Text.foldCase "T2_ES_IFCA").toList ≠ [] := by
      decide +kernel
    rw [MentionsIfca, Text.toList_foldCase list, List.infix_map_iff] at mentions
    obtain ⟨piece, inside, folded⟩ := mentions
    rw [folded] at plain filled
    simp only [List.all_eq_true, Bool.not_eq_true'] at plain
    obtain ⟨entry, member, within⟩ := SiteList.exists_entry_of_infix
      (fun empty => filled (List.map_eq_nil_iff.2 empty))
      (fun c own => Text.isSeparator_eq_false_of_toLower (plain _ (List.mem_map_of_mem own))) inside
    refine ⟨entry, member, ?_⟩
    rw [MentionsIfca, folded, Text.toList_foldCase]
    exact within.map _
  · rintro ⟨entry, member, mentions⟩
    refine mentions.trans ?_
    rw [Text.toList_foldCase, Text.toList_foldCase]
    exact (SiteList.infix_of_mem member).map _

namespace Policy

variable {p : Policy} {options : CompileOptions} {f g : Family} {r c : Rule} {ad : JobAd}

/-- The whitelist does not mention the site, and no rule puts it back: none rewrites the whitelist
for the task, and no site whose name mentions it is about to be released. -/
structure MovedAway (p : Policy) (options : CompileOptions) (ad : JobAd) : Prop where
  quiet : p.Quiet options ad
  whitelist : ∃ list, ad.get? Attribute.desiredSites = some (.lit (.str list)) ∧
    ¬ MentionsIfca list
  unreleased : ∀ site ∈ validSites p.releaseSite, MentionsIfca site.text →
    ad.evalAttr (Marker.heldFrom site) ≠ .bool true

theorem Rewrites.not_mentionsIfca {list list' : String} (rewrites : p.Rewrites options r list list')
    (absent : ¬ MentionsIfca list)
    (unreleased : ∀ site ∈ validSites p.releaseSite, r = releaseSiteRule site →
      ¬ MentionsIfca site.text) : ¬ MentionsIfca list' := by
  have unlisted : ∀ entry ∈ SiteList.entries list, ¬ MentionsIfca entry := by
    intro entry member mentions
    exact absent (mentionsIfca_iff.2 ⟨entry, member, mentions⟩)
  have overflow : ¬ MentionsIfca t0OverflowSite := by
    rw [MentionsIfca]
    decide +kernel
  have replaced : ¬ MentionsIfca "T1_ES_PIC,T2_ES_CIEMAT" := by
    rw [MentionsIfca]
    decide +kernel
  intro mentions'
  obtain ⟨entry, member, mentions⟩ := mentionsIfca_iff.1 mentions'
  cases rewrites with
  | kept _ => exact absent mentions'
  | sorted _ => exact unlisted entry (SiteList.mem_entries_sorted.1 member) mentions
  | without _ _ => exact unlisted entry (SiteList.mem_entries_without.1 member).1 mentions
  | @restored site listed own =>
      rcases (SiteList.mem_entries_restored site.isEntry).1 member with member | rfl
      · exact unlisted entry member mentions
      · exact unreleased site listed own mentions
  | spilled _ _ =>
      rcases (SiteList.mem_entries_adding isEntry_t0OverflowSite).1 member with member | rfl
      · exact unlisted entry member mentions
      · exact overflow mentions
  | corrected _ _ => exact replaced mentions'

theorem MovedAway.apply (moved : p.MovedAway options ad) (makes : p.Makes options f r)
    (fixed : f ≠ .reset) (fits : r.matchesAd ad = true) (anchored : ad.Anchored) :
    p.MovedAway options (r.apply ad) := by
  obtain ⟨list, bound, absent⟩ := moved.whitelist
  obtain ⟨list', bound', rewrites⟩ := makes.rewrites fits (moved.quiet.unkeyed makes fits) bound
  refine ⟨moved.quiet.apply_of_fixed makes fixed fits anchored, ⟨list', bound', ?_⟩, ?_⟩
  · apply rewrites.not_mentionsIfca absent
    rintro site listed rfl mentions
    exact moved.unreleased site listed mentions (matchesAd_releaseSiteRule_iff.1 fits)
  · intro site listed mentions
    obtain ⟨v, stores⟩ := anchored.markers site
    obtain ⟨v', stores', marks⟩ := makes.marks fits stores
    rw [stores'.evalAttr]
    cases marks with
    | kept => exact stores.evalAttr ▸ moved.unreleased site listed mentions
    | @held other _ _ own same =>
        -- The whitelist mentions the site that is held, so its name does not mention this one.
        subst own
        have pattern := (matchesAd_holdSiteRule_iff.1 fits).1
        rw [JobAd.evalAttr_of_lit bound, SiteName.matchesPattern_iff] at pattern
        refine absurd (mentions.trans ?_) absent
        rw [← Text.sameIgnoringCase_iff.1 same, Text.toList_foldCase, Text.toList_foldCase]
        exact pattern.2.map _
    | released _ _ _ _ => simp
    | reset _ _ _ => simp

theorem not_multicoreRule_of_movedAway (moved : p.MovedAway options ad) :
    multicoreRule.matchesAd ad = false := by
  obtain ⟨list, bound, absent⟩ := moved.whitelist
  rw [Bool.eq_false_iff]
  intro fits
  have same := sameIgnoringCase_of_multicoreRule fits (JobAd.evalAttr_of_lit bound)
  apply absent
  rw [MentionsIfca, Text.sameIgnoringCase_iff.1 same]

theorem movedAway_of_firstMatch? (makes : p.Makes options .multicore multicoreRule)
    (first : (p.compile options).rules.firstMatch? ad = some multicoreRule) (anchored : ad.Anchored)
    (fits : multicoreRule.matchesAd ad = true) :
    p.MovedAway options (multicoreRule.apply ad) := by
  have quiet : p.Quiet options ad := quiet_of_firstMatch? makes first (by decide)
  refine ⟨quiet.apply_of_fixed makes (by decide) fits anchored,
    ⟨_, get?_apply_multicoreRule ad, ?_⟩, ?_⟩
  · rw [MentionsIfca]
    decide +kernel
  · intro site listed _
    have missed := not_matchesAd_of_earlier makes (.releaseSite listed) first (by decide)
    rw [Bool.eq_false_iff, Ne, matchesAd_releaseSiteRule_iff] at missed
    obtain ⟨v, stores⟩ := anchored.markers site
    obtain ⟨v', stores', marks⟩ := makes.marks fits stores
    rw [stores'.evalAttr]
    cases marks with
    | kept => exact stores.evalAttr ▸ missed
    | held _ family _ _ => cases family
    | released _ _ _ _ => simp
    | reset _ _ _ => simp

theorem spends_multicore {picks : Rule → Bool} (empty : p.resetRouting = [])
    (picked : ∀ h r, p.Makes options h r → picks r = true → h = .multicore ∧ r = multicoreRule) :
    (p.compile options).rules.Spends picks JobAd.Anchored (p.MovedAway options) where
  kept := by
    intro r ad first anchored
    obtain ⟨member, fits⟩ := RuleSet.of_firstMatch?_eq_some first
    obtain ⟨f, makes⟩ := mem_compile_iff.1 member
    exact makes.anchored_apply fits anchored
  spends := by
    intro r ad first anchored own
    obtain ⟨member, fits⟩ := RuleSet.of_firstMatch?_eq_some first
    obtain ⟨f, makes⟩ := mem_compile_iff.1 member
    obtain ⟨rfl, rfl⟩ := picked f r makes own
    exact movedAway_of_firstMatch? makes first anchored fits
  stays := by
    intro r ad first anchored moved
    obtain ⟨member, fits⟩ := RuleSet.of_firstMatch?_eq_some first
    obtain ⟨f, makes⟩ := mem_compile_iff.1 member
    refine ⟨?_, moved.apply makes (makes.ne_reset empty) fits anchored⟩
    rw [Bool.eq_false_iff]
    intro own
    obtain ⟨_, rfl⟩ := picked f r makes own
    rw [not_multicoreRule_of_movedAway moved] at fits
    cases fits

/-! ### All corrections -/

/-- No threshold brings back what a correction of memory or of the wall time takes away. A threshold
of zero minutes never exceeds the cap. -/
structure SparesCorrections (p : Policy) : Prop where
  memory : p.Spares p.memory fun threshold => t0MemoryCap < threshold
  time : p.Spares p.time fun threshold => threshold ≠ 0

/-- Every correction is spent when it has acted on a job that a document stands for. -/
theorem exists_spends_of_spares {picks : Rule → Bool} (empty : p.resetRouting = [])
    (spares : p.SparesCorrections) (listed : (g, c) ∈ fixes)
    (picked : ∀ h r, p.Makes options h r → (picks r = true ↔ h = g ∧ r = c))
    (literal : ad.Literal) :
    ∃ Tracked Spent, (p.compile options).rules.Spends picks Tracked Spent ∧ Tracked ad := by
  have memory : (Family.memory, Tuning.memory, p.memory) ∈ p.tunings := by
    simp [tunings]
  have time : (Family.time, Tuning.time, p.time) ∈ p.tunings := by
    simp [tunings]
  have recorded : ∀ t : Tuning, Recorded t ad :=
    fun t => ⟨⟨_, literal.stores _⟩, _, literal.stores _⟩
  have only : ∀ h r, p.Makes options h r → picks r = true → h = g ∧ r = c :=
    fun h r makes => (picked h r makes).1
  rcases of_mem_fixes listed with ⟨rfl, rfl⟩ | ⟨rfl, rfl⟩ | ⟨rfl, rfl⟩ | ⟨rfl, rfl⟩ | ⟨rfl, rfl⟩ |
    ⟨rfl, rfl⟩
  · refine ⟨_, _, spends_of_corrects empty memory (by decide) (by decide) only
      (corrects_memoryRule empty (by decide) (by decide) (by decide)) ?_, recorded _⟩
    apply spares.memory.mono
    rintro _ rfl
    decide
  · refine ⟨_, _, spends_of_corrects empty memory (by decide) (by decide) only
      (corrects_memoryRule empty (by decide) (by decide) (by decide)) ?_, recorded _⟩
    apply spares.memory.mono
    rintro _ rfl
    decide
  · exact ⟨_, _, spends_of_corrects empty memory (by decide) (by decide) only
      (corrects_t0MemoryRule empty) spares.memory, recorded _⟩
  · have shares : (p.compile options).rules.SharesLatch picks ⟨Marker.outOfT0, .bool true⟩ := by
      have shared : Family.t0Spill.latch? options = some ⟨Marker.outOfT0, .bool true⟩ := rfl
      apply sharesLatch empty shared (by simp [Family.writers])
      intro h r makes
      rw [picked h r makes, and_iff_left_iff_imp]
      rintro rfl
      exact makes.of_t0Spill
    exact ⟨_, _, shares.spends, trivial⟩
  · exact ⟨_, _, spends_multicore empty only, literal.anchored⟩
  · exact ⟨_, _, spends_of_corrects empty time (by decide) (by decide) only
      (corrects_wallTime empty) spares.time, recorded _⟩

/-- A run without resets applies each correction once at most, if no threshold undoes it. -/
theorem count_corrections_le_one (empty : p.resetRouting = []) (spares : p.SparesCorrections)
    (listed : c ∈ corrections) (literal : ad.Literal) (limit : Nat) :
    ((p.compile options).rules.run limit ad).1.fired.count c.name ≤ 1 := by
  have table : corrections = fixes.map Prod.snd := rfl
  rw [table] at listed
  obtain ⟨⟨g, c⟩, fix, rfl⟩ := List.mem_map.1 listed
  have picked : ∀ h r, p.Makes options h r → ((r.name == c.name) = true ↔ h = g ∧ r = c) := by
    intro h r makes
    rw [beq_iff_eq]
    constructor
    · exact makes.eq_of_name fix
    · rintro ⟨_, rfl⟩
      rfl
  obtain ⟨Tracked, Spent, spends, tracked⟩ :=
    exists_spends_of_spares empty spares fix picked literal
  rw [RuleSet.fired_run, List.count, List.countP_map]
  exact spends.countP_firedRules_le_one limit tracked

end Policy

end RoutingPolicy

import RoutingPolicy.Proofs.Compile.Whitelist

/-!
# Runs that never end

A task that is held in one spelling and released in another keeps a job of it alternating: one of
the two rules matches whatever the flag says, since both compare tasks without case. A site is
harder to pin down, because other rules change the whitelist that the holding rule looks at. An
entry that only begins with the name of the site serves: it is no site, so no rule takes it out, and
the name still stands in the whitelist. Together with the runs that end this says which policies
always converge.
-/

namespace RoutingPolicy

set_option autoImplicit false

open Compile Compile.Overflow Compile.Hold Compile.Ranking Compile.Correction

/-! ### Texts that begin like a site -/

namespace SiteName

/-- A text that begins with the name of the site and is no site. -/
def stray (site : SiteName) : String := site.text ++ "-"

theorem isEntry_stray (site : SiteName) : SiteList.IsEntry site.stray := by
  have plain : SiteList.isSeparator '-' = false := rfl
  apply site.isEntry_append
  intro c member
  obtain rfl : c = '-' := by simpa using member
  exact plain

theorem stray_ne (site other : SiteName) : site.stray ≠ other.text := by
  intro same
  have dash : '-' ∈ other.text.toList := by
    rw [← same]
    simp [stray]
  have held := other.contains_charTable _ dash
  exact List.any_eq_false.1 any_contains_charTable '-' List.mem_cons_self held

end SiteName

/-! ### Whitelists with a given entry -/

def Value.Lists (entry : String) (v : Value) : Prop :=
  ∃ list, v = .str list ∧ entry ∈ SiteList.entries list

namespace Policy

variable {p : Policy} {options : CompileOptions} {f : Family} {r : Rule} {ad : JobAd}
  {entry : String}

/-! ### Jobs with an entry that is no site -/

/-- The job has no task, and its whitelist has the entry. -/
structure Strays (entry : String) (ad : JobAd) : Prop where
  taskless : ad.get? Attribute.subtaskName = none
  listed : ∃ v, ad.get? Attribute.desiredSites = some (.lit v) ∧ v.Lists entry

theorem Makes.not_matchesAd_of_taskless (makes : p.Makes options f r)
    (keyed : f ∈ [Family.replacement, .master, .hold, .release])
    (taskless : ad.get? Attribute.subtaskName = none) : r.matchesAd ad = false := by
  have unnamed : ad.evalAttr Attribute.subtaskName = .undefined :=
    JobAd.evalAttr_of_unbound taskless
  have unselected : ∀ items selector, Expr.memberOf? (.plain Attribute.subtaskName) items =
      some selector → ad.eval selector ≠ .bool true := by
    intro items selector selects holds
    obtain ⟨s, named, _⟩ := (Expr.eval_memberOf?_iff selects).1 holds
    rw [AttrRef.name_plain, unnamed] at named
    cases named
  simp only [List.mem_cons, List.not_mem_nil, or_false] at keyed
  rcases keyed with rfl | rfl | rfl | rfl
  · obtain ⟨task, sites, rfl⟩ := makes.of_replacement
    apply Rule.not_matchesAd_of_clause (List.mem_cons_of_mem _ List.mem_cons_self)
    rw [JobAd.eval_compareTo, AttrRef.name_plain, unnamed]
    simp [Comparison.apply, Value.identical]
  · obtain ⟨group, selector, selects, rfl⟩ := makes.of_master
    apply Rule.not_matchesAd_of_clause _ (unselected _ _ selects)
    simp [masterRule, Rule.make]
  · obtain ⟨selector, selects, rfl⟩ := makes.of_hold
    apply Rule.not_matchesAd_of_clause _ (unselected _ _ selects)
    exact List.mem_cons_of_mem _ List.mem_cons_self
  · obtain ⟨selector, selects, rfl⟩ := makes.of_release
    apply Rule.not_matchesAd_of_clause _ (unselected _ _ selects)
    exact List.mem_cons_of_mem _ List.mem_cons_self

theorem not_matchesAd_multicoreRule {site : SiteName} (strays : Strays site.stray ad) :
    multicoreRule.matchesAd ad = false := by
  obtain ⟨v, bound, list, rfl, member⟩ := strays.listed
  have dash : '-' ∈ list.toList := by
    apply (SiteList.infix_of_mem member).subset
    simp [SiteName.stray]
  have different : Text.sameIgnoringCase list "T2_ES_IFCA" = false := by
    rw [Text.sameIgnoringCase_eq_false_iff]
    intro same
    have folded : '-' ∈ (Text.foldCase "T2_ES_IFCA").toList := by
      rw [← same, Text.toList_foldCase, List.mem_map]
      exact ⟨'-', dash, rfl⟩
    simp [Text.toList_foldCase] at folded
  apply Rule.not_matchesAd_of_clause List.mem_cons_self
  rw [JobAd.eval_compareTo, AttrRef.name_plain, JobAd.evalAttr_of_lit bound,
    Comparison.apply_equal_str, different]
  simp

theorem Makes.listed_of_strays {site : SiteName} (makes : p.Makes options f r)
    (strays : Strays site.stray ad)
    (recomputes : f ∈ [Family.sort, .holdSite, .releaseSite, .t0Spill]) :
    ∃ v, (r.apply ad).get? Attribute.desiredSites = some (.lit v) ∧ v.Lists site.stray := by
  obtain ⟨v, bound, list, rfl, member⟩ := strays.listed
  simp only [List.mem_cons, List.not_mem_nil, or_false] at recomputes
  rcases recomputes with rfl | rfl | rfl | rfl
  · obtain rfl := makes.of_sort
    exact ⟨_, get?_apply_sortRule bound, _, rfl, SiteList.mem_entries_sorted.2 member⟩
  · obtain ⟨held, _, rfl⟩ := makes.of_holdSite
    refine ⟨_, get?_apply_holdSiteRule held bound, _, rfl, ?_⟩
    exact SiteList.mem_entries_without.2 ⟨member, site.stray_ne held⟩
  · obtain ⟨released, _, rfl⟩ := makes.of_releaseSite
    refine ⟨_, get?_apply_releaseSiteRule released bound, _, rfl, ?_⟩
    exact (SiteList.mem_entries_restored released.isEntry).2 (.inl member)
  · obtain rfl := makes.of_t0Spill
    refine ⟨_, get?_apply_t0SpillRule bound, _, rfl, ?_⟩
    exact (SiteList.mem_entries_adding isEntry_t0OverflowSite).2 (.inl member)

theorem Makes.strays_apply {site : SiteName} (makes : p.Makes options f r) (fixed : f ≠ .reset)
    (strays : Strays site.stray ad) (fits : r.matchesAd ad = true) :
    Strays site.stray (r.apply ad) := by
  refine ⟨(makes.get?_task fixed ad).trans strays.taskless, ?_⟩
  by_cases keyed : f ∈ [Family.replacement, .master, .hold, .release]
  · rw [makes.not_matchesAd_of_taskless keyed strays.taskless] at fits
    cases fits
  by_cases recomputes : f ∈ [Family.sort, .holdSite, .releaseSite, .t0Spill]
  · exact makes.listed_of_strays strays recomputes
  by_cases multicore : f = .multicore
  · subst multicore
    rw [makes.of_multicore, not_matchesAd_multicoreRule strays] at fits
    cases fits
  · have known : (Attribute.desiredSites, Family.siteWriters) ∈ Family.writers := by
      simp [Family.writers]
    rw [Rule.get?_apply_of_not_writes ad (makes.not_writes fixed known _)]
    · exact strays.listed
    · simp only [Family.siteWriters, List.mem_cons, List.not_mem_nil, or_false]
        at keyed recomputes ⊢
      tauto

/-! ### Clashes -/

theorem matchesAd_of_strays {site released : SiteName}
    (readable : (Regex.read? site.text).isSome = true)
    (same : Text.sameIgnoringCase site.text released.text = true)
    (strays : Strays site.stray ad) :
    (holdSiteRule site).matchesAd ad = true ∨ (releaseSiteRule released).matchesAd ad = true := by
  have spelled : ad.evalAttr (Marker.heldFrom site) = ad.evalAttr (Marker.heldFrom released) := by
    rw [← Marker.sameIgnoringCase_heldFrom, Text.sameIgnoringCase_iff] at same
    exact ad.evalAttr_congr same
  by_cases marked : ad.evalAttr (Marker.heldFrom site) = .bool true
  · right
    apply Guard.holds_iff.2
    intro clause member
    obtain rfl := List.mem_singleton.1 member
    rw [JobAd.eval_flagIsTrue_eq_true_iff]
    exact spelled.symm.trans marked
  · left
    obtain ⟨v, bound, list, rfl, listed⟩ := strays.listed
    have front : site.text.toList <+: site.stray.toList := by
      rw [SiteName.stray, String.toList_append]
      exact List.prefix_append _ _
    have inside := front.isInfix.trans (SiteList.infix_of_mem listed)
    apply Guard.holds_iff.2
    intro clause member
    rcases List.mem_cons.1 member with rfl | member
    · rw [JobAd.eval_matchesRegex, AttrRef.name_plain, JobAd.evalAttr_of_lit bound]
      exact SiteName.matchesPattern_iff.2 ⟨readable, inside⟩
    · obtain rfl := List.mem_singleton.1 member
      rw [JobAd.eval_flagIsNotTrue_eq_true_iff]
      exact marked

/-- Where a site is held in one spelling and released in another, no run on a job whose whitelist
has an entry that begins with the name of the site converges. -/
theorem not_converged_of_site (empty : p.resetRouting = []) {site released : SiteName}
    (held : site ∈ p.heldSites) (readable : (Regex.read? site.text).isSome = true)
    (listed : released ∈ validSites p.releaseSite)
    (same : Text.sameIgnoringCase site.text released.text = true) (strays : Strays site.stray ad)
    (limit : Nat) : ((p.compile options).rules.run limit ad).1.converged = false := by
  apply RuleSet.not_converged _ _ limit strays
  · intro r member later strays fits
    obtain ⟨f, makes⟩ := mem_compile_iff.1 member
    exact makes.strays_apply (makes.ne_reset empty) strays fits
  · intro later strays
    rcases matchesAd_of_strays readable same strays with fits | fits
    · exact ⟨_, mem_compile_iff.2 ⟨_, .holdSite held⟩, fits⟩
    · exact ⟨_, mem_compile_iff.2 ⟨_, .releaseSite listed⟩, fits⟩

theorem exists_selector {items : List String} {item : String} (listed : item ∈ items) :
    ∃ selector, Expr.memberOf? (.plain Attribute.subtaskName) items = some selector := by
  rw [← Option.ne_none_iff_exists', Ne, Expr.memberOf?_eq_none_iff]
  exact List.ne_nil_of_mem listed

/-- Where a task is held in one spelling and released in another, no run on a job of the task
converges. -/
theorem not_converged_of_task (empty : p.resetRouting = []) {task released : String}
    (held : task ∈ p.heldTasks) (listed : released ∈ p.release.toList)
    (same : Text.sameIgnoringCase task released = true)
    (named : ad.get? Attribute.subtaskName = some (.lit (.str task))) (limit : Nat) :
    ((p.compile options).rules.run limit ad).1.converged = false := by
  obtain ⟨holding, holds⟩ := exists_selector held
  obtain ⟨releasing, releases⟩ := exists_selector listed
  let Named : JobAd → Prop := fun later =>
    later.get? Attribute.subtaskName = some (.lit (.str task))
  have start : Named ad := named
  apply RuleSet.not_converged _ _ limit start
  · intro r member later named _
    obtain ⟨f, makes⟩ := mem_compile_iff.1 member
    exact (makes.get?_task (makes.ne_reset empty) later).trans named
  · intro later named
    have value : later.evalAttr Attribute.subtaskName = .str task := JobAd.evalAttr_of_lit named
    by_cases marked : later.evalAttr Marker.hasBeenSetHeld = .bool true
    · refine ⟨_, mem_compile_iff.2 ⟨_, .release releases⟩, Guard.holds_iff.2 ?_⟩
      intro clause member
      rcases List.mem_cons.1 member with rfl | member
      · rw [JobAd.eval_flagIsTrue_eq_true_iff]
        exact marked
      · obtain rfl := List.mem_singleton.1 member
        exact (Expr.eval_memberOf?_iff releases).2 ⟨task, value, released, listed, same⟩
    · refine ⟨_, mem_compile_iff.2 ⟨_, .hold holds⟩, Guard.holds_iff.2 ?_⟩
      intro clause member
      rcases List.mem_cons.1 member with rfl | member
      · rw [JobAd.eval_flagIsNotTrue_eq_true_iff]
        exact marked
      · obtain rfl := List.mem_singleton.1 member
        exact (Expr.eval_memberOf?_iff holds).2
          ⟨task, value, task, held, Text.sameIgnoringCase_refl task⟩

/-! ### Exactly the policies that converge -/

theorem exists_document_of_task (empty : p.resetRouting = []) {task released : String}
    (held : task ∈ p.heldTasks) (listed : released ∈ p.release.toList)
    (same : Text.sameIgnoringCase task released = true) :
    ∃ document ad, JobAd.ofJson document = .ok ad ∧
      ∀ limit, ((p.compile options).rules.run limit ad).1.converged = false := by
  refine ⟨.object [(Attribute.subtaskName, .string task)], _, rfl, ?_⟩
  intro limit
  apply not_converged_of_task empty held listed same
  exact (JobAd.get?_assign _ _ _ _).trans (if_pos rfl)

theorem exists_document_of_site (empty : p.resetRouting = []) {site released : SiteName}
    (held : site ∈ p.heldSites) (readable : (Regex.read? site.text).isSome = true)
    (listed : released ∈ validSites p.releaseSite)
    (same : Text.sameIgnoringCase site.text released.text = true) :
    ∃ document ad, JobAd.ofJson document = .ok ad ∧
      ∀ limit, ((p.compile options).rules.run limit ad).1.converged = false := by
  refine ⟨.object [(Attribute.desiredSites, .string site.stray)], _, rfl, ?_⟩
  intro limit
  apply not_converged_of_site empty held readable listed same
  have known : (Attribute.desiredSites, Family.siteWriters) ∈ Family.writers := by
    simp [Family.writers]
  have other := Family.foldCase_subtaskName_ne known
  constructor
  · exact (JobAd.get?_assign _ _ _ _).trans (if_neg other)
  · refine ⟨.str site.stray, (JobAd.get?_assign _ _ _ _).trans (if_pos rfl), site.stray, rfl, ?_⟩
    rw [SiteList.entries_of_isEntry site.isEntry_stray]
    exact List.mem_cons_self

/-- Without resets, all long runs converge on every job that a document stands for exactly if
nothing is held in one spelling and released in another. -/
theorem converges_iff_holdApart (p : Policy) (options : CompileOptions)
    (empty : p.resetRouting = []) :
    (∀ document ad, JobAd.ofJson document = .ok ad → ∃ bound, ∀ limit, bound ≤ limit →
      ((p.compile options).rules.run limit ad).1.converged = true) ↔ p.HoldApart := by
  constructor
  · intro converges
    have never : ¬ ∃ document ad, JobAd.ofJson document = .ok ad ∧
        ∀ limit, ((p.compile options).rules.run limit ad).1.converged = false := by
      intro clash
      obtain ⟨document, ad, read, runs⟩ := clash
      obtain ⟨bound, converged⟩ := converges document ad read
      have both := converged bound (Nat.le_refl bound)
      rw [runs bound] at both
      cases both
    constructor
    · intro task held released listed
      rw [Bool.eq_false_iff]
      intro same
      exact never (exists_document_of_task empty held listed same)
    · intro site held readable released listed
      rw [Bool.eq_false_iff]
      intro same
      exact never (exists_document_of_site empty held readable listed same)
  · intro apart document ad read
    exact converges_of_holdApart empty apart (JobAd.literal_of_ofJson read)

def heldApart : Policy :=
  { empty with
    hold := SortedMap.empty.insert "/wf/A" []
    release := SortedSet.ofList ["/wf/B"]
    holdSite := ["T2_US_MIT"]
    releaseSite := ["T2_US_Wisconsin"] }

theorem converges_of_heldApart :
    heldApart.resetRouting = [] ∧ heldApart.HoldApart ∧
      ∀ document ad, JobAd.ofJson document = .ok ad → ∃ bound, ∀ limit, bound ≤ limit →
        ((heldApart.compile .standard).rules.run limit ad).1.converged = true := by
  have apart : heldApart.HoldApart := by
    constructor <;> decide +kernel
  exact ⟨rfl, apart, (converges_iff_holdApart heldApart .standard rfl).2 apart⟩

def heldTwice : Policy :=
  { empty with
    hold := SortedMap.empty.insert "/wf/A" []
    release := SortedSet.ofList ["/wf/a"] }

theorem alternates_heldTwice :
    ∃ ad, JobAd.ofJson (.object [(Attribute.subtaskName, .string "/wf/A"),
        (Attribute.desiredSites, .string "T1_US_FNAL"), (Marker.hasPrioCorrection, .bool true)]) =
          .ok ad ∧
      ∀ limit, ((heldTwice.compile .standard).rules.run limit ad).1.converged = false := by
  have held : "/wf/A" ∈ heldTwice.heldTasks := by
    decide +kernel
  have listed : "/wf/a" ∈ heldTwice.release.toList := by
    decide +kernel
  have sites : (Attribute.desiredSites, Family.siteWriters) ∈ Family.writers := by
    simp [Family.writers]
  have flag : (Marker.hasPrioCorrection, [Family.correction]) ∈ Family.writers := by
    simp [Family.writers]
  refine ⟨_, rfl, ?_⟩
  intro limit
  apply not_converged_of_task rfl held listed (by decide +kernel)
  rw [JobAd.get?_assign, if_neg (Family.foldCase_subtaskName_ne flag), JobAd.get?_assign,
    if_neg (Family.foldCase_subtaskName_ne sites), JobAd.get?_assign, if_pos rfl]
  rfl

end Policy

end RoutingPolicy

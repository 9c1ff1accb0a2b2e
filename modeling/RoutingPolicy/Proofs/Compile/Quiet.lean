import RoutingPolicy.Proofs.Compile.Precedence
import RoutingPolicy.Proofs.Compile.Sites

/-!
# Whitelists once the task has been dealt with

A whitelist is rewritten for the task of the job, or for its sites. The rules of the first kind come
before those of the second, so when a rule on a site is applied they do not match, and in a run that
converges they never match again: only a reset could set their flag back, and then the rule and the
reset would take turns for ever. From there on every rule takes a literal whitelist to a literal
whitelist, in one of six ways.
-/

namespace RoutingPolicy

set_option autoImplicit false

open Compile Compile.Overflow Compile.Hold Compile.Ranking Compile.Correction

/-! ### Attributes that stay literals -/

/-- The attributes, beside the markers of sites, on which the rewriting of a whitelist depends. -/
def anchors : List String :=
  [Attribute.subtaskName, Attribute.desiredSites, Attribute.heldDesiredSites,
    Marker.hasBeenReplaced, Marker.hasBeenRoutedOverflow, Marker.hasBeenSetHeld]

structure JobAd.Anchored (ad : JobAd) : Prop where
  attributes : ∀ name ∈ anchors, ∃ v, ad.Stores name v
  markers : ∀ site, ∃ v, ad.Stores (Marker.heldFrom site) v

theorem JobAd.Literal.anchored {ad : JobAd} (literal : ad.Literal) : ad.Anchored where
  attributes name _ := ⟨_, literal.stores name⟩
  markers site := ⟨_, literal.stores (Marker.heldFrom site)⟩

namespace Rule

variable {r : Rule} {ad : JobAd} {before after : List Mutation} {name source destination : String}
  {e : Expr} {v v' : Value}

theorem stores_apply_evalSet (ad : JobAd)
    (parts : r.mutations = before ++ .evalSet name e :: after)
    (later : ∀ m ∈ after, Text.sameIgnoringCase m.target name = false)
    (unmarked : (r.markers.any fun m => Text.sameIgnoringCase m.flag name) = false) :
    ∃ v, (r.apply ad).Stores name v := by
  have written := get?_apply_last ad parts later unmarked
  rw [Mutation.apply, JobAd.get?_assign, if_pos rfl] at written
  exact ⟨_, .inl written⟩

theorem stores_apply_copy (parts : r.mutations = .copy source destination :: after)
    (later : ∀ m ∈ after, Text.sameIgnoringCase m.target destination = false)
    (unmarked : (r.markers.any fun m => Text.sameIgnoringCase m.flag destination) = false)
    (stores : ad.Stores source v) (stores' : ad.Stores destination v') :
    ∃ v, (r.apply ad).Stores destination v := by
  rcases stores with bound | ⟨unbound, _⟩
  · exact ⟨v, .inl (get?_apply_copied parts later unmarked bound)⟩
  · refine ⟨v', stores'.of_get?_eq ?_⟩
    rw [get?_apply_copy parts later unmarked, unbound, Option.none_or]

end Rule

namespace Policy

variable {p : Policy} {options : CompileOptions} {f : Family} {r : Rule} {ad : JobAd}
  {name : String}

theorem Makes.stores_desiredSites (makes : p.Makes options f r) (anchored : ad.Anchored)
    (writer : f ∈ Family.siteWriters) : ∃ v, (r.apply ad).Stores Attribute.desiredSites v := by
  have unmarked : ∀ flag, Text.sameIgnoringCase flag Attribute.desiredSites = false →
      ∀ {category name guard mutations value},
        ((Rule.make category name guard mutations [⟨flag, value⟩]).markers.any fun m =>
          Text.sameIgnoringCase m.flag Attribute.desiredSites) = false :=
    fun _ other => Rule.any_markers_make_eq_false other (by decide +kernel)
  simp only [Family.siteWriters, List.mem_cons, List.not_mem_nil, or_false] at writer
  rcases writer with rfl | rfl | rfl | rfl | rfl | rfl | rfl | rfl | rfl
  · obtain ⟨task, sites, rfl⟩ := makes.of_replacement
    have apart : Text.sameIgnoringCase Attribute.rank Attribute.desiredSites = false := by
      decide +kernel
    exact Rule.stores_apply_evalSet ad (List.nil_append _).symm
      (by simpa [Mutation.target] using apart) (unmarked _ (by decide +kernel))
  · obtain ⟨group, selector, _, rfl⟩ := makes.of_master
    have apart : Text.sameIgnoringCase Attribute.rank Attribute.desiredSites = false := by
      decide +kernel
    exact Rule.stores_apply_evalSet ad (List.singleton_append).symm
      (by simpa [Mutation.target] using apart) (unmarked _ (by decide +kernel))
  · obtain rfl := makes.of_sort
    exact Rule.stores_apply_evalSet ad (List.singleton_append).symm (by simp)
      (unmarked _ (by decide +kernel))
  · obtain ⟨selector, _, rfl⟩ := makes.of_hold
    exact ⟨_, .inl (get?_apply_holdTasksRule options selector ad)⟩
  · obtain ⟨selector, _, rfl⟩ := makes.of_release
    obtain ⟨v, saved⟩ := anchored.attributes Attribute.heldDesiredSites (by simp [anchors])
    obtain ⟨v', own⟩ := anchored.attributes Attribute.desiredSites (by simp [anchors])
    have apart : Text.sameIgnoringCase Attribute.heldDesiredSites Attribute.desiredSites =
        false := by
      decide +kernel
    exact Rule.stores_apply_copy rfl (by simpa [Mutation.target] using apart)
      (unmarked _ (by decide +kernel)) saved own
  · obtain ⟨site, _, rfl⟩ := makes.of_holdSite
    exact Rule.stores_apply_evalSet ad (List.singleton_append).symm (by simp)
      (unmarked _ (Marker.sameIgnoringCase_heldFrom_desiredSites site))
  · obtain ⟨site, _, rfl⟩ := makes.of_releaseSite
    have apart : Text.sameIgnoringCase Attribute.releasingDesiredSites Attribute.desiredSites =
        false := by
      decide +kernel
    exact Rule.stores_apply_evalSet ad (List.singleton_append).symm
      (by simpa [Mutation.target] using apart)
      (unmarked _ (Marker.sameIgnoringCase_heldFrom_desiredSites site))
  · obtain rfl := makes.of_t0Spill
    exact Rule.stores_apply_evalSet ad (List.singleton_append).symm (by simp)
      (unmarked _ (by decide +kernel))
  · obtain rfl := makes.of_multicore
    exact ⟨_, .inl (get?_apply_multicoreRule ad)⟩

theorem Makes.stores_heldDesiredSites (makes : p.Makes options f r) (anchored : ad.Anchored)
    (writer : f ∈ [Family.hold, .release]) :
    ∃ v, (r.apply ad).Stores Attribute.heldDesiredSites v := by
  have unmarked : ∀ {category name guard mutations value},
      ((Rule.make category name guard mutations [⟨Marker.hasBeenSetHeld, value⟩]).markers.any
        fun m => Text.sameIgnoringCase m.flag Attribute.heldDesiredSites) = false :=
    Rule.any_markers_make_eq_false (by decide +kernel) (by decide +kernel)
  simp only [List.mem_cons, List.not_mem_nil, or_false] at writer
  rcases writer with rfl | rfl
  · obtain ⟨selector, _, rfl⟩ := makes.of_hold
    obtain ⟨v, own⟩ := anchored.attributes Attribute.desiredSites (by simp [anchors])
    obtain ⟨v', saved⟩ := anchored.attributes Attribute.heldDesiredSites (by simp [anchors])
    have apart : Text.sameIgnoringCase Attribute.desiredSites Attribute.heldDesiredSites =
        false := by
      decide +kernel
    exact Rule.stores_apply_copy rfl (by simpa [Mutation.target] using apart) unmarked own saved
  · obtain ⟨selector, _, rfl⟩ := makes.of_release
    exact ⟨.undefined, .inr ⟨get?_apply_releaseTasksRule_held selector ad, rfl⟩⟩

theorem Makes.anchored_apply (makes : p.Makes options f r) (fits : r.matchesAd ad = true)
    (anchored : ad.Anchored) : (r.apply ad).Anchored where
  attributes := by
    intro name listed
    obtain ⟨v, stores⟩ := anchored.attributes name listed
    have others : ∀ families, (name, families) ∈ Family.writers → f ∉ families →
        ∃ v, (r.apply ad).Stores name v := by
      intro families known other
      rcases makes.stores_apply fits known other stores with kept | ⟨_, _, _, cleared⟩
      · exact ⟨v, kept⟩
      · exact ⟨_, cleared⟩
    simp only [anchors, List.mem_cons, List.not_mem_nil, or_false] at listed
    rcases listed with rfl | rfl | rfl | rfl | rfl | rfl
    · exact others [] (by simp [Family.writers]) List.not_mem_nil
    · by_cases writer : f ∈ Family.siteWriters
      · exact makes.stores_desiredSites anchored writer
      · exact others Family.siteWriters (by simp [Family.writers]) writer
    · by_cases writer : f ∈ [Family.hold, .release]
      · exact makes.stores_heldDesiredSites anchored writer
      · exact others _ (by simp [Family.writers]) writer
    · by_cases writer : f = .replacement
      · subst writer
        exact ⟨_, .inl ((makes.latches rfl).closes ad)⟩
      · exact others [.replacement] (by simp [Family.writers]) (by simpa using writer)
    · by_cases writer : f = .master
      · subst writer
        exact ⟨_, .inl ((makes.latches rfl).closes ad)⟩
      · exact others [.master] (by simp [Family.writers]) (by simpa using writer)
    · by_cases writer : f ∈ [Family.hold, .release]
      · simp only [List.mem_cons, List.not_mem_nil, or_false] at writer
        rcases writer with rfl | rfl <;> exact ⟨_, .inl ((makes.latches rfl).closes ad)⟩
      · exact others _ (by simp [Family.writers]) writer
  markers := by
    intro site
    obtain ⟨v, stores⟩ := anchored.markers site
    obtain ⟨v', stores', _⟩ := makes.marks fits stores
    exact ⟨v', stores'⟩

end Policy

/-! ### Rules for the task of a job -/

def JobAd.SameTask (ad ad' : JobAd) : Prop :=
  ∀ s, ad.evalAttr Attribute.subtaskName = .str s ↔ ad'.evalAttr Attribute.subtaskName = .str s

/-- The families whose rules rewrite the whitelist for the task of the job. -/
def Family.keyed : List Family := [replacement, master, hold, release]

def Family.key : Family → String
  | replacement => Marker.hasBeenReplaced
  | master => Marker.hasBeenRoutedOverflow
  | _ => Marker.hasBeenSetHeld

theorem Family.key_mem_anchors (f : Family) : f.key ∈ anchors := by
  cases f <;> simp [key, anchors]

theorem Family.mem_writers_key {f : Family} (keyed : f ∈ Family.keyed) :
    ∃ families, (f.key, families) ∈ Family.writers ∧ ∀ g ∈ families, g ∈ Family.keyed := by
  simp only [Family.keyed, List.mem_cons, List.not_mem_nil, or_false] at keyed
  rcases keyed with rfl | rfl | rfl | rfl
  · exact ⟨[replacement], by simp [writers, key], by decide⟩
  · exact ⟨[master], by simp [writers, key], by decide⟩
  · exact ⟨[hold, release], by simp [writers, key], by decide⟩
  · exact ⟨[hold, release], by simp [writers, key], by decide⟩

namespace Policy

variable {p : Policy} {options : CompileOptions} {f : Family} {r : Rule} {ad final : JobAd}

theorem Makes.sameTask_apply (makes : p.Makes options f r) (fits : r.matchesAd ad = true)
    (anchored : ad.Anchored) : (r.apply ad).SameTask ad := by
  intro s
  obtain ⟨v, stores⟩ := anchored.attributes Attribute.subtaskName (by simp [anchors])
  have known : (Attribute.subtaskName, []) ∈ Family.writers := by
    simp [Family.writers]
  rw [stores.evalAttr]
  rcases makes.stores_apply fits known List.not_mem_nil stores with kept | ⟨_, rfl, _, cleared⟩
  · rw [kept.evalAttr]
  · rw [cleared.evalAttr]
    simp

theorem Makes.matchesAd_iff_of_keyed (makes : p.Makes options f r) (keyed : f ∈ Family.keyed) :
    ∃ picks : String → Prop, ∀ ad : JobAd, r.matchesAd ad = true ↔
      (ad.evalAttr f.key = .bool true ↔ f = .release) ∧
        ∃ s, ad.evalAttr Attribute.subtaskName = .str s ∧ picks s := by
  simp only [Family.keyed, List.mem_cons, List.not_mem_nil, or_false] at keyed
  rcases keyed with rfl | rfl | rfl | rfl
  · obtain ⟨task, sites, rfl⟩ := makes.of_replacement
    refine ⟨(· = task), ?_⟩
    intro ad
    rw [Rule.matchesAd, Guard.holds_iff]
    simp only [replacementRule, Rule.make, List.mem_cons, List.not_mem_nil, or_false,
      forall_eq_or_imp, forall_eq, JobAd.eval_flagIsNotTrue_eq_true_iff, AttrRef.name_plain,
      JobAd.eval_compareTo, Comparison.apply, Value.bool.injEq, Value.identical_str_iff, Family.key,
      reduceCtorEq, iff_false, exists_eq_right]
  · obtain ⟨group, selector, selects, rfl⟩ := makes.of_master
    refine ⟨fun s => ∃ t ∈ group.tasks.toList, Text.sameIgnoringCase s t = true, ?_⟩
    intro ad
    rw [Rule.matchesAd, Guard.holds_iff]
    simp only [masterRule, Rule.make, List.mem_cons, List.not_mem_nil, or_false,
      forall_eq_or_imp, forall_eq, Expr.eval_memberOf?_iff selects,
      JobAd.eval_flagIsNotTrue_eq_true_iff, AttrRef.name_plain, Family.key, reduceCtorEq, iff_false]
    exact and_comm
  · obtain ⟨selector, selects, rfl⟩ := makes.of_hold
    refine ⟨fun s => ∃ t ∈ p.heldTasks, Text.sameIgnoringCase s t = true, ?_⟩
    intro ad
    rw [matchesAd_holdTasksRule_iff, Expr.eval_memberOf?_iff selects]
    simp only [AttrRef.name_plain, Family.key, reduceCtorEq, iff_false]
  · obtain ⟨selector, selects, rfl⟩ := makes.of_release
    refine ⟨fun s => ∃ t ∈ p.release.toList, Text.sameIgnoringCase s t = true, ?_⟩
    intro ad
    rw [matchesAd_releaseTasksRule_iff, Expr.eval_memberOf?_iff selects]
    simp only [AttrRef.name_plain, Family.key, iff_true]

def Settled (p : Policy) (options : CompileOptions) (ad : JobAd) : Prop :=
  ∀ f r, p.Makes options f r → r.matchesAd ad = false

theorem settled_of_converged {limit : Nat}
    (converged : ((p.compile options).rules.run limit ad).1.converged = true) :
    p.Settled options ((p.compile options).rules.run limit ad).2 := by
  intro f r makes
  exact RuleSet.not_matchesAd_of_converged converged r (mem_compile_iff.2 ⟨f, makes⟩)

theorem Settled.not_resets {name : String} (settled : p.Settled options final)
    (truth : final.evalAttr name = .bool true) : ¬ p.Resets name := by
  rintro ⟨flag, listed, same⟩
  have spelled := final.evalAttr_congr (Text.sameIgnoringCase_iff.1 same)
  have fits : (resetRule flag).matchesAd final = true :=
    matchesAd_resetRule_iff.2 (spelled.trans truth)
  rw [settled _ _ (.reset listed)] at fits
  cases fits

/-- No rule rewrites the whitelist for the task of the job. -/
def Quiet (p : Policy) (options : CompileOptions) (ad : JobAd) : Prop :=
  ∀ f r, p.Makes options f r → f ∈ Family.keyed → r.matchesAd ad = false

theorem Quiet.unkeyed (quiet : p.Quiet options ad) (makes : p.Makes options f r)
    (fits : r.matchesAd ad = true) : f ∉ Family.keyed := by
  intro keyed
  rw [quiet f r makes keyed] at fits
  cases fits

theorem quiet_of_firstMatch? (makes : p.Makes options f r)
    (first : (p.compile options).rules.firstMatch? ad = some r)
    (later : ∀ g ∈ Family.keyed, g.category.position < f.category.position) :
    p.Quiet options ad := by
  intro g k makes' keyed
  exact not_matchesAd_of_earlier makes makes' first (later g keyed)

/-- A keyed rule whose flag a rule leaves as it is matched before that if it matches then. -/
theorem Makes.matchesAd_of_keyed_apply {g : Family} {k : Rule} {v : Value}
    (makes' : p.Makes options g k) (keyed : g ∈ Family.keyed) (makes : p.Makes options f r)
    (fits : r.matchesAd ad = true) (anchored : ad.Anchored) (stores : ad.Stores g.key v)
    (kept : (r.apply ad).Stores g.key v) (matched : k.matchesAd (r.apply ad) = true) :
    k.matchesAd ad = true := by
  obtain ⟨picks, guarded⟩ := makes'.matchesAd_iff_of_keyed keyed
  obtain ⟨flag, s, named, picked⟩ := (guarded _).1 matched
  rw [kept.evalAttr] at flag
  refine (guarded ad).2 ⟨?_, s, (makes.sameTask_apply fits anchored s).1 named, picked⟩
  rwa [stores.evalAttr]

/-- On the way to an ad that no rule matches, the whitelist is not rewritten for the task once no
rule does so. -/
theorem Quiet.apply (settled : p.Settled options final) (task : ad.SameTask final)
    (anchored : ad.Anchored) (quiet : p.Quiet options ad) (makes : p.Makes options f r)
    (fits : r.matchesAd ad = true) : p.Quiet options (r.apply ad) := by
  intro g k makes' keyed
  rw [Bool.eq_false_iff]
  intro matched
  obtain ⟨picks, guarded⟩ := makes'.matchesAd_iff_of_keyed keyed
  obtain ⟨flag, s, named, picked⟩ := (guarded _).1 matched
  have namedBefore := (makes.sameTask_apply fits anchored s).1 named
  obtain ⟨families, known, own⟩ := Family.mem_writers_key keyed
  have other : f ∉ families := fun writer => quiet.unkeyed makes fits (own f writer)
  obtain ⟨v, stores⟩ := anchored.attributes g.key (Family.key_mem_anchors g)
  rcases makes.stores_apply fits known other stores with kept | ⟨_, rfl, resets, cleared⟩
  · have before := makes'.matchesAd_of_keyed_apply keyed makes fits anchored stores kept matched
    rw [quiet g k makes' keyed] at before
    cases before
  · -- The rule would match the last ad too, or else the reset of its flag would.
    rw [cleared.evalAttr] at flag
    have asksFor : g ≠ .release := by
      rintro rfl
      exact absurd (flag.2 rfl) (by simp)
    have refuted : ¬ k.matchesAd final = true := by
      rw [settled g k makes']
      exact Bool.false_ne_true
    rw [guarded final] at refuted
    have truth : final.evalAttr g.key = .bool true := by
      by_contra untrue
      exact refuted ⟨by simp [untrue, asksFor], s, (task s).1 namedBefore, picked⟩
    exact settled.not_resets truth resets

theorem Quiet.apply_of_fixed (quiet : p.Quiet options ad) (makes : p.Makes options f r)
    (fixed : f ≠ .reset) (fits : r.matchesAd ad = true) (anchored : ad.Anchored) :
    p.Quiet options (r.apply ad) := by
  intro g k makes' keyed
  rw [Bool.eq_false_iff]
  intro matched
  obtain ⟨families, known, own⟩ := Family.mem_writers_key keyed
  have other : f ∉ families := fun writer => quiet.unkeyed makes fits (own f writer)
  obtain ⟨v, stores⟩ := anchored.attributes g.key (Family.key_mem_anchors g)
  have kept := stores.of_get?_eq
    (Rule.get?_apply_of_not_writes ad (makes.not_writes fixed known other))
  have before := makes'.matchesAd_of_keyed_apply keyed makes fits anchored stores kept matched
  rw [quiet g k makes' keyed] at before
  cases before

/-! ### Rewriting of literal whitelists -/

/-- What the rules of a policy make of a whitelist, but for those that rewrite it for a task. -/
inductive Rewrites (p : Policy) (options : CompileOptions) (r : Rule) (list : String) :
    String → Prop where
  | kept (elsewhere : ∀ site, r ≠ holdSiteRule site ∧ r ≠ releaseSiteRule site) :
      Rewrites p options r list list
  | sorted (elsewhere : ∀ site, r ≠ holdSiteRule site ∧ r ≠ releaseSiteRule site) :
      Rewrites p options r list (SiteList.sorted list)
  | without {site : SiteName} (listed : site ∈ p.heldSites) (own : r = holdSiteRule site) :
      Rewrites p options r list (SiteList.without list site.text)
  | restored {site : SiteName} (listed : site ∈ validSites p.releaseSite)
      (own : r = releaseSiteRule site) :
      Rewrites p options r list (SiteList.restored list site.text)
  | spilled (chosen : options.adhoc = true) (own : r = t0SpillRule) :
      Rewrites p options r list (SiteList.adding list t0OverflowSite)
  | corrected (chosen : options.adhoc = true) (own : r = multicoreRule) :
      Rewrites p options r list "T1_ES_PIC,T2_ES_CIEMAT"

theorem Rewrites.mem_entries {list list' entry : String}
    (rewrites : p.Rewrites options r list list') (member : entry ∈ SiteList.entries list)
    (unheld : ∀ site ∈ p.heldSites, r = holdSiteRule site → entry ≠ site.text)
    (uncorrected : r ≠ multicoreRule) : entry ∈ SiteList.entries list' := by
  cases rewrites with
  | kept _ => exact member
  | sorted _ => exact SiteList.mem_entries_sorted.2 member
  | without listed own => exact SiteList.mem_entries_without.2 ⟨member, unheld _ listed own⟩
  | @restored site _ _ => exact (SiteList.mem_entries_restored site.isEntry).2 (.inl member)
  | spilled _ _ => exact (SiteList.mem_entries_adding isEntry_t0OverflowSite).2 (.inl member)
  | corrected _ own => exact absurd own uncorrected

theorem sameIgnoringCase_of_multicoreRule {list : String}
    (fits : multicoreRule.matchesAd ad = true)
    (value : ad.evalAttr Attribute.desiredSites = .str list) :
    Text.sameIgnoringCase list "T2_ES_IFCA" = true := by
  have equal := Guard.holds_iff.1 fits _ List.mem_cons_self
  rwa [JobAd.eval_compareTo, AttrRef.name_plain, value, Comparison.apply_equal_str,
    Value.bool.injEq] at equal

theorem Makes.adhoc_of_fix (makes : p.Makes options f r) (correction : f.category = .adHoc) :
    options.adhoc = true := by
  cases makes with
  | fix chosen _ => exact chosen
  | tuning tuned _ _ =>
      rcases of_mem_tunings tuned with ⟨rfl, _⟩ | ⟨rfl, _⟩ | ⟨rfl, _⟩ | ⟨rfl, _⟩ <;>
        cases correction
  | _ => cases correction

theorem Makes.rewrites {list : String} (makes : p.Makes options f r)
    (fits : r.matchesAd ad = true) (unkeyed : f ∉ Family.keyed)
    (bound : ad.get? Attribute.desiredSites = some (.lit (.str list))) :
    ∃ list', (r.apply ad).get? Attribute.desiredSites = some (.lit (.str list')) ∧
      p.Rewrites options r list list' := by
  by_cases holdSite : f = .holdSite
  · subst holdSite
    obtain ⟨site, listed, rfl⟩ := makes.of_holdSite
    exact ⟨_, get?_apply_holdSiteRule site bound, .without listed rfl⟩
  by_cases releaseSite : f = .releaseSite
  · subst releaseSite
    obtain ⟨site, listed, rfl⟩ := makes.of_releaseSite
    exact ⟨_, get?_apply_releaseSiteRule site bound, .restored listed rfl⟩
  have elsewhere : ∀ site, r ≠ holdSiteRule site ∧ r ≠ releaseSiteRule site := fun site =>
    ⟨fun own => holdSite (makes.eq_holdSite own), fun own => releaseSite (makes.eq_releaseSite own)⟩
  by_cases sort : f = .sort
  · subst sort
    obtain rfl := makes.of_sort
    exact ⟨_, get?_apply_sortRule bound, .sorted elsewhere⟩
  by_cases spill : f = .t0Spill
  · subst spill
    have chosen := makes.adhoc_of_fix rfl
    obtain rfl := makes.of_t0Spill
    exact ⟨_, get?_apply_t0SpillRule bound, .spilled chosen rfl⟩
  by_cases multicore : f = .multicore
  · subst multicore
    have chosen := makes.adhoc_of_fix rfl
    obtain rfl := makes.of_multicore
    exact ⟨_, get?_apply_multicoreRule ad, .corrected chosen rfl⟩
  · have known : (Attribute.desiredSites, Family.siteWriters) ∈ Family.writers := by
      simp [Family.writers]
    have other : f ∉ Family.siteWriters := by
      simp only [Family.keyed, Family.siteWriters, List.mem_cons, List.not_mem_nil, or_false]
        at unkeyed ⊢
      tauto
    have stores := makes.stores_apply_of_ne fits known other (.inl bound) (by simp)
    exact ⟨list, stores.get?_eq (by simp), .kept elsewhere⟩

/-! ### Runs that converge -/

theorem anchored_run (p : Policy) (options : CompileOptions) (limit : Nat) (literal : ad.Literal) :
    ((p.compile options).rules.run limit ad).2.Anchored ∧
      ((p.compile options).rules.run limit ad).2.SameTask ad := by
  let Tracked : JobAd → Prop := fun later => later.Anchored ∧ later.SameTask ad
  have start : Tracked ad := ⟨literal.anchored, fun _ => Iff.rfl⟩
  apply RuleSet.holds_run _ limit start
  rintro r later first ⟨anchored, task⟩
  obtain ⟨member, fits⟩ := RuleSet.of_firstMatch?_eq_some first
  obtain ⟨f, makes⟩ := mem_compile_iff.1 member
  refine ⟨makes.anchored_apply fits anchored, ?_⟩
  intro s
  exact (makes.sameTask_apply fits anchored s).trans (task s)

/-- For a property of the last ad and of the rules applied up to it, it is enough to follow the
cycles, each with a rule that is the first to match, on an ad of the same task. -/
theorem holds_traced_run_of_literal {Holds : List Rule → JobAd → Prop} (limit : Nat)
    (literal : ad.Literal)
    (kept : ∀ fired f r later, p.Makes options f r →
      (p.compile options).rules.firstMatch? later = some r → r.matchesAd later = true →
      later.Anchored → later.SameTask ((p.compile options).rules.run limit ad).2 →
      Holds fired later → Holds (fired ++ [r]) (r.apply later))
    (start : Holds [] ad) :
    Holds ((p.compile options).rules.firedRules limit ad)
      ((p.compile options).rules.run limit ad).2 := by
  have last := (anchored_run p options limit literal).2
  let Tracked : List Rule → JobAd → Prop := fun fired later =>
    later.Anchored ∧ later.SameTask ((p.compile options).rules.run limit ad).2 ∧ Holds fired later
  have first : Tracked [] ad := ⟨literal.anchored, fun s => (last s).symm, start⟩
  suffices tracked : Tracked ((p.compile options).rules.firedRules limit ad)
    ((p.compile options).rules.run limit ad).2 from tracked.2.2
  apply RuleSet.holds_traced_run _ limit [] first
  rintro fired r later matched ⟨anchored, task, holds⟩
  obtain ⟨member, fits⟩ := RuleSet.of_firstMatch?_eq_some matched
  obtain ⟨f, makes⟩ := mem_compile_iff.1 member
  refine ⟨makes.anchored_apply fits anchored, ?_, kept fired f r later makes matched fits anchored
    task holds⟩
  intro s
  exact (makes.sameTask_apply fits anchored s).trans (task s)

theorem holds_run_of_literal {Holds : JobAd → Prop} (limit : Nat) (literal : ad.Literal)
    (kept : ∀ f r later, p.Makes options f r →
      (p.compile options).rules.firstMatch? later = some r → r.matchesAd later = true →
      later.Anchored → later.SameTask ((p.compile options).rules.run limit ad).2 → Holds later →
      Holds (r.apply later))
    (start : Holds ad) : Holds ((p.compile options).rules.run limit ad).2 := by
  let Tracked : List Rule → JobAd → Prop := fun _ => Holds
  have tracked : Tracked ((p.compile options).rules.firedRules limit ad)
      ((p.compile options).rules.run limit ad).2 :=
    holds_traced_run_of_literal limit literal (fun _ => kept) start
  exact tracked

/-! ### Sites that are held or released -/

theorem mem_heldSites_iff {site : SiteName} :
    site ∈ p.heldSites ↔ (∃ text ∈ p.holdSite, Text.trim text = site.text) ∧
      ∀ text ∈ p.releaseSite, Text.trim text ≠ site.text := by
  rw [heldSites, List.mem_filter, mem_validSites_iff, Bool.not_eq_true', Bool.eq_false_iff, Ne,
    List.contains_iff_mem, List.mem_map]
  simp only [not_exists, not_and, ne_eq]

theorem ne_of_heldSites {site other : SiteName} (held : site ∈ p.heldSites)
    (released : other ∈ validSites p.releaseSite) : site.text ≠ other.text := by
  obtain ⟨text, listed, trimmed⟩ := mem_validSites_iff.1 released
  intro same
  exact (mem_heldSites_iff.1 held).2 text listed (trimmed.trans same.symm)

/-- Where no rule matches, a held site that the whitelist still mentions is marked as held. -/
theorem Settled.marked_of_mentioned {site : SiteName} (settled : p.Settled options ad)
    (held : site ∈ p.heldSites)
    (mentioned : (ad.evalAttr Attribute.desiredSites).matchesPattern site.text = .bool true) :
    ad.evalAttr (Marker.heldFrom site) = .bool true := by
  by_contra unmarked
  have fits := matchesAd_holdSiteRule_iff.2 ⟨mentioned, unmarked⟩
  rw [settled _ _ (.holdSite held)] at fits
  cases fits

end Policy

end RoutingPolicy

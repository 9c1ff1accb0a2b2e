import RoutingPolicy.Proofs.Compile.Whitelist

/-!
# Precedence among compiled rules

Rules stand category by category, so the rule that a cycle applies says that no rule of an earlier
category matches, and within its own category it is the first to match. A reset only ever changes a
flag that is true.
-/

namespace RoutingPolicy

set_option autoImplicit false

open Compile Compile.Overflow Compile.Hold Compile.Ranking Compile.Correction

theorem find?_eq_find? {Item : Type} {items : List Item} {p q : Item → Bool} {a b : Item}
    (first : items.find? p = some a) (first' : items.find? q = some b) (passes : q a = true)
    (passes' : p b = true) : a = b := by
  induction items with
  | nil => cases first
  | cons item rest induction =>
      rw [List.find?_cons] at first first'
      cases own : p item with
      | true =>
          rw [own] at first
          obtain rfl := Option.some.inj first
          rw [passes] at first'
          exact Option.some.inj first'
      | false =>
          rw [own] at first
          cases own' : q item with
          | true =>
              rw [own'] at first'
              obtain rfl := Option.some.inj first'
              rw [passes'] at own
              cases own
          | false =>
              rw [own'] at first'
              exact induction first first'

/-! ### First matches -/

namespace Policy

variable {p : Policy} {options : CompileOptions} {f f' : Family} {r r' : Rule} {ad : JobAd}

theorem pairwise_rules (p : Policy) (options : CompileOptions) :
    (p.compile options).rules.rules.Pairwise fun a b =>
      a.category.position ≤ b.category.position := by
  have own : ∀ category, ∀ r ∈ Compiled.rules (p.entries options category),
      r.category = category := by
    intro category r member
    obtain ⟨f, rfl, makes⟩ := makes_of_mem_rules member
    exact makes.category_eq
  have ascending : Category.emissionOrder.Pairwise fun a b => a.position ≤ b.position := by
    decide
  rw [compile, List.pairwise_flatMap]
  constructor
  · intro category _
    apply List.pairwise_of_forall_mem_list
    intro a listed b listed'
    rw [own category a listed, own category b listed']
  · apply ascending.imp
    intro category category' before a listed b listed'
    rw [own category a listed, own category' b listed']
    exact before

theorem not_matchesAd_of_earlier (makes : p.Makes options f r) (makes' : p.Makes options f' r')
    (first : (p.compile options).rules.firstMatch? ad = some r)
    (earlier : f'.category.position < f.category.position) : r'.matchesAd ad = false := by
  obtain ⟨_, before, behind, split, missed⟩ := List.find?_eq_some_iff_append.1 first
  have member : r' ∈ before ++ r :: behind := by
    rw [← split]
    exact mem_compile_iff.2 ⟨f', makes'⟩
  rcases List.mem_append.1 member with front | back
  · simpa using missed r' front
  · have ordered := p.pairwise_rules options
    rw [split] at ordered
    have later := List.pairwise_cons.1 (List.pairwise_append.1 ordered).2.1
    rw [← makes.category_eq, ← makes'.category_eq] at earlier
    rcases List.mem_cons.1 back with rfl | back
    · omega
    · have position := later.1 r' back
      omega

theorem find?_rules_of_firstMatch? (makes : p.Makes options f r)
    (first : (p.compile options).rules.firstMatch? ad = some r) :
    (Compiled.rules (p.entries options f.category)).find? (·.matchesAd ad) = some r := by
  rw [← ofCategory_compile, RuleSet.ofCategory, List.find?_filter]
  obtain ⟨fits, before, behind, split, missed⟩ := List.find?_eq_some_iff_append.1 first
  apply List.find?_eq_some_iff_append.2
  refine ⟨by simp [makes.category_eq, fits], before, behind, split, ?_⟩
  intro other front
  simp [missed other front]

/-- Of the sites that a test picks, the first one has its rule applied before the others, if it
matches at all. -/
theorem site_eq_of_firstMatch? {rule : SiteName → Rule} {sites : List SiteName}
    {picks : SiteName → Bool} {site site' : SiteName}
    (makes : p.Makes options f (rule site))
    (rules : Compiled.rules (p.entries options f.category) = sites.map rule)
    (injective : Function.Injective rule)
    (first : (p.compile options).rules.firstMatch? ad = some (rule site))
    (picked : sites.find? picks = some site') (own : picks site = true)
    (fits : (rule site').matchesAd ad = true) : site = site' := by
  have found := find?_rules_of_firstMatch? makes first
  rw [rules, List.find?_map] at found
  obtain ⟨applied, firstApplied, same⟩ := Option.map_eq_some_iff.1 found
  obtain rfl := injective same
  exact find?_eq_find? firstApplied picked own fits

theorem siteName_eq_of_append {stem : String} {site other : SiteName}
    (same : stem ++ site.text = stem ++ other.text) : site = other := by
  apply SiteName.text_injective
  rwa [← String.toList_inj, String.toList_append, String.toList_append, List.append_right_inj,
    String.toList_inj] at same

theorem holdSiteRule_injective : Function.Injective holdSiteRule := by
  intro site other same
  exact siteName_eq_of_append (congrArg Rule.name same)

theorem releaseSiteRule_injective : Function.Injective releaseSiteRule := by
  intro site other same
  exact siteName_eq_of_append (congrArg Rule.name same)

theorem holdSiteRule_ne (site other : SiteName) : holdSiteRule site ≠ releaseSiteRule other := by
  intro same
  have category : Category.holdSite = .releaseSite := congrArg Rule.category same
  cases category

/-! ### Resets -/

/-- The policy resets the flag, in some spelling. -/
def Resets (p : Policy) (name : String) : Prop :=
  ∃ flag ∈ distinctFlags (Text.nonblank p.resetRouting), Text.sameIgnoringCase flag name = true

theorem Makes.of_reset (makes : p.Makes options .reset r) :
    ∃ flag ∈ distinctFlags (Text.nonblank p.resetRouting), r = resetRule flag := by
  cases makes with
  | reset listed => exact ⟨_, listed, rfl⟩
  | tuning tuned _ _ => simp [tunings] at tuned
  | fix _ listed => simp [fixes] at listed

end Policy

namespace Compile.Correction

variable {flag name : String} {ad : JobAd} {v : Value}

theorem matchesAd_resetRule_iff :
    (resetRule flag).matchesAd ad = true ↔ ad.evalAttr flag = .bool true := by
  rw [Rule.matchesAd, Guard.holds_iff]
  simp [resetRule, Rule.make]

theorem stores_apply_resetRule (fits : (resetRule flag).matchesAd ad = true)
    (unrouted : Text.sameIgnoringCase Marker.hasBeenRouted name = false)
    (stores : ad.Stores name v) :
    ((resetRule flag).apply ad).Stores name v ∨
      (v = .bool true ∧ Text.sameIgnoringCase flag name = true ∧
        ((resetRule flag).apply ad).Stores name (.bool false)) := by
  cases same : Text.sameIgnoringCase flag name with
  | true =>
      right
      have truth : ad.evalAttr flag = .bool true := matchesAd_resetRule_iff.1 fits
      rw [ad.evalAttr_congr (Text.sameIgnoringCase_iff.1 same), stores.evalAttr] at truth
      refine ⟨truth, rfl, (JobAd.stores_congr _ same).1 (.inl ?_)⟩
      exact (latches_resetRule flag).closes ad
  | false =>
      left
      apply stores.of_get?_eq
      apply Rule.get?_apply_of_not_writes
      rw [Rule.writes_eq_false_iff]
      intro target member
      rcases Rule.mem_written_make member with rfl | own
      · exact unrouted
      · obtain rfl := List.mem_singleton.1 own
        exact same

end Compile.Correction

namespace Policy

variable {p : Policy} {options : CompileOptions} {f : Family} {r : Rule} {ad : JobAd} {v : Value}
  {name : String} {families : List Family}

/-- What a rule of another family leaves of an attribute with known writers: what it was, or false
where it was true and the rule is a reset of it. -/
theorem Makes.stores_apply (makes : p.Makes options f r) (fits : r.matchesAd ad = true)
    (known : (name, families) ∈ Family.writers) (other : f ∉ families)
    (stores : ad.Stores name v) :
    (r.apply ad).Stores name v ∨
      (f = .reset ∧ v = .bool true ∧ p.Resets name ∧ (r.apply ad).Stores name (.bool false)) := by
  by_cases reset : f = .reset
  · subst reset
    obtain ⟨flag, listed, rfl⟩ := makes.of_reset
    have unrouted := Family.unrouted_writers (List.mem_map_of_mem known)
    apply (stores_apply_resetRule fits unrouted stores).imp_right
    rintro ⟨truth, same, cleared⟩
    exact ⟨rfl, truth, ⟨flag, listed, same⟩, cleared⟩
  · exact .inl (stores.of_get?_eq (Rule.get?_apply_of_not_writes ad
      (makes.not_writes reset known other)))

theorem Makes.stores_apply_of_ne (makes : p.Makes options f r) (fits : r.matchesAd ad = true)
    (known : (name, families) ∈ Family.writers) (other : f ∉ families)
    (stores : ad.Stores name v) (untrue : v ≠ .bool true) : (r.apply ad).Stores name v :=
  (makes.stores_apply fits known other stores).resolve_right fun reset => untrue reset.2.1

theorem Makes.eq_holdSite {site : SiteName} (makes : p.Makes options f r)
    (own : r = holdSiteRule site) : f = .holdSite := by
  subst own
  have category : Category.holdSite = f.category := makes.category_eq
  cases f <;> first | rfl | cases category

theorem Makes.eq_releaseSite {site : SiteName} (makes : p.Makes options f r)
    (own : r = releaseSiteRule site) : f = .releaseSite := by
  subst own
  have category : Category.releaseSite = f.category := makes.category_eq
  cases f <;> first | rfl | cases category

/-- What becomes of the marker of a site under a rule. -/
inductive Marks (p : Policy) (f : Family) (r : Rule) (site : SiteName) (before : Value) :
    Value → Prop where
  | kept : Marks p f r site before before
  | held {other : SiteName} (listed : other ∈ p.heldSites) (family : f = .holdSite)
      (own : r = holdSiteRule other) (same : Text.sameIgnoringCase other.text site.text = true) :
      Marks p f r site before (.bool true)
  | released {other : SiteName} (listed : other ∈ validSites p.releaseSite)
      (family : f = .releaseSite) (own : r = releaseSiteRule other)
      (same : Text.sameIgnoringCase other.text site.text = true) :
      Marks p f r site before (.bool false)
  | reset (family : f = .reset) (truth : before = .bool true)
      (resets : p.Resets (Marker.heldFrom site)) : Marks p f r site before (.bool false)

theorem Makes.marks (makes : p.Makes options f r) (fits : r.matchesAd ad = true) {site : SiteName}
    (stores : ad.Stores (Marker.heldFrom site) v) :
    ∃ v', (r.apply ad).Stores (Marker.heldFrom site) v' ∧ p.Marks f r site v v' := by
  by_cases reset : f = .reset
  · subst reset
    obtain ⟨flag, listed, rfl⟩ := makes.of_reset
    have unrouted : Text.sameIgnoringCase Marker.hasBeenRouted (Marker.heldFrom site) = false := by
      rw [Text.sameIgnoringCase_comm]
      exact Marker.sameIgnoringCase_of_isHeldFrom (Marker.isHeldFrom_heldFrom site)
        (by decide +kernel)
    rcases stores_apply_resetRule fits unrouted stores with kept | ⟨truth, same, cleared⟩
    · exact ⟨v, kept, .kept⟩
    · exact ⟨_, cleared, .reset rfl truth ⟨flag, listed, same⟩⟩
  by_cases on : ∃ other, p.IsOnSite r other ∧ Text.sameIgnoringCase other.text site.text = true
  · obtain ⟨other, rule, same⟩ := on
    have spelled := (Marker.sameIgnoringCase_heldFrom other site).trans same
    rcases rule with ⟨rfl, listed⟩ | ⟨rfl, listed⟩
    · have family := makes.eq_holdSite rfl
      have set := (latches_holdSiteRule other).closes ad
      exact ⟨_, (JobAd.stores_congr _ spelled).1 (.inl set), .held listed family rfl same⟩
    · have family := makes.eq_releaseSite rfl
      have cleared := (latches_releaseSiteRule other).closes ad
      exact ⟨_, (JobAd.stores_congr _ spelled).1 (.inl cleared), .released listed family rfl same⟩
  · have elsewhere : r.writes (Marker.heldFrom site) = false := by
      apply makes.not_writes_heldFrom reset
      intro other rule
      rw [Bool.eq_false_iff]
      intro same
      exact on ⟨other, rule, same⟩
    exact ⟨v, stores.of_get?_eq (Rule.get?_apply_of_not_writes ad elsewhere), .kept⟩

end Policy

end RoutingPolicy

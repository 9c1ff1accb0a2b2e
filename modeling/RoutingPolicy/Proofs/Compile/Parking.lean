import RoutingPolicy.Proofs.Compile.StayingOut

/-!
# Held tasks stay parked

A held task gets a whitelist of one site that does not exist. Rules on sites do not know of that:
one takes the site out if the policy holds it, and one appends a site whose marker the job still
carries from earlier policies. Until the task is held no marker of a site changes, and afterwards no
rule for the task is left, so what the last whitelist is can be read off the policy and the markers
at the start.
-/

namespace RoutingPolicy

set_option autoImplicit false

open Compile Compile.Hold Compile.Correction

def nowhere : SiteName := ⟨CompileOptions.defaultHoldSite, by decide +kernel⟩

/-! ### The whitelist of a parked task -/

namespace SiteList

theorem entries_nowhere : entries nowhere.text = [nowhere.text] :=
  entries_of_isEntry nowhere.isEntry

theorem sorted_nowhere : sorted nowhere.text = nowhere.text := by
  decide +kernel

theorem without_nowhere {site : SiteName} (other : site ≠ nowhere) :
    without nowhere.text site.text = nowhere.text := by
  have different : (nowhere.text != site.text) = true := by
    rw [bne_iff_ne]
    intro same
    exact other (SiteName.text_injective same.symm)
  have kept : [nowhere.text].filter (· != site.text) = [nowhere.text] := by
    simpa using different
  rw [without, entries_nowhere, kept]
  rfl

theorem restored_nowhere : restored nowhere.text nowhere.text = nowhere.text := by
  decide +kernel

end SiteList

/-- A name that stands in the name of the nowhere site and equals it but for case is that name. -/
theorem eq_nowhere_of_inside {site : SiteName} (inside : site.text.toList <:+: nowhere.text.toList)
    (same : Text.sameIgnoringCase site.text nowhere.text = true) : site = nowhere := by
  have length : site.text.toList.length = nowhere.text.toList.length := by
    rw [Text.sameIgnoringCase_iff] at same
    have folded := congrArg (fun s => s.toList.length) same
    simpa [Text.toList_foldCase] using folded
  exact SiteName.text_injective (String.toList_inj.1 (inside.eq_of_length length))

namespace Policy

variable {p : Policy} {options : CompileOptions} {f : Family} {r : Rule} {ad final : JobAd}
  {list list' : String}

theorem ne_multicoreRule_of_nowhere (fits : r.matchesAd ad = true)
    (value : ad.evalAttr Attribute.desiredSites = .str list)
    (parked : nowhere.text ∈ SiteList.entries list) : r ≠ multicoreRule := by
  rintro rfl
  have same := sameIgnoringCase_of_multicoreRule fits value
  have short : list.toList.length = 10 := by
    rw [Text.sameIgnoringCase_iff] at same
    have folded := congrArg (fun s => s.toList.length) same
    simpa [Text.toList_foldCase] using folded
  have long := (SiteList.infix_of_mem parked).length_le
  rw [short] at long
  exact absurd long (by decide)

/-! ### Until the task is held -/

/-- The task of a job is held and not released, and the job is not held yet. -/
structure AwaitsHold (p : Policy) (options : CompileOptions) (ad : JobAd) : Prop where
  literal : ad.Literal
  sentinel : options.holdSite = CompileOptions.defaultHoldSite
  named : ∃ task, ad.evalAttr Attribute.subtaskName = .str task ∧ task ∈ p.hold.keys ∧
    ∀ released ∈ p.release.toList, Text.sameIgnoringCase task released = false
  free : ad.evalAttr Marker.hasBeenSetHeld ≠ .bool true

theorem AwaitsHold.exists_rule (awaits : p.AwaitsHold options ad) :
    ∃ selector, Expr.memberOf? (.plain Attribute.subtaskName) p.heldTasks = some selector ∧
      ∀ later : JobAd, later.SameTask ad → later.eval selector = .bool true := by
  obtain ⟨task, named, listed, unreleased⟩ := awaits.named
  have held : task ∈ p.heldTasks := by
    rw [heldTasks, List.mem_filter]
    refine ⟨listed, ?_⟩
    rw [Bool.not_eq_true', Bool.eq_false_iff]
    intro released
    have different := unreleased task (by simpa [SortedSet.contains] using released)
    rw [Text.sameIgnoringCase_refl] at different
    cases different
  cases selects : Expr.memberOf? (.plain Attribute.subtaskName) p.heldTasks with
  | none =>
      rw [Expr.memberOf?_eq_none_iff.1 selects] at held
      cases held
  | some selector =>
      refine ⟨selector, rfl, ?_⟩
      intro later same
      exact (Expr.eval_memberOf?_iff selects).2
        ⟨task, (same task).2 named, task, held, Text.sameIgnoringCase_refl task⟩

theorem AwaitsHold.not_released (awaits : p.AwaitsHold options ad)
    (makes : p.Makes options .release r) {later : JobAd} (same : later.SameTask ad) :
    r.matchesAd later = false := by
  obtain ⟨selector, selects, rfl⟩ := makes.of_release
  obtain ⟨task, named, _, unreleased⟩ := awaits.named
  rw [Bool.eq_false_iff]
  intro fits
  obtain ⟨s, value, released, listed, spelled⟩ :=
    (Expr.eval_memberOf?_iff selects).1 (matchesAd_releaseTasksRule_iff.1 fits).2
  have read := (same task).2 named
  rw [AttrRef.name_plain, read] at value
  cases value
  rw [unreleased released listed] at spelled
  cases spelled

/-- The job is not held yet, and the markers of sites are what they were at the start. -/
structure Waits (start ad : JobAd) : Prop where
  free : ad.evalAttr Marker.hasBeenSetHeld ≠ .bool true
  markers : ∀ site, ad.evalAttr (Marker.heldFrom site) = start.evalAttr (Marker.heldFrom site)

/-- The whitelist is a literal, and no rule rewrites it for the task any more. -/
structure Parked (p : Policy) (options : CompileOptions) (list : String) (ad : JobAd) : Prop where
  quiet : p.Quiet options ad
  whitelist : ad.get? Attribute.desiredSites = some (.lit (.str list))

theorem AwaitsHold.position_le (awaits : p.AwaitsHold options ad) {later : JobAd}
    (same : later.SameTask ad) (waits : Waits ad later) (makes : p.Makes options f r)
    (first : (p.compile options).rules.firstMatch? later = some r) :
    f.category.position ≤ Category.hold.position := by
  obtain ⟨selector, selects, selected⟩ := awaits.exists_rule
  by_contra beyond
  have missed := not_matchesAd_of_earlier makes (.hold selects) first (Nat.lt_of_not_le beyond)
  rw [Bool.eq_false_iff, Ne, matchesAd_holdTasksRule_iff] at missed
  exact missed ⟨waits.free, selected later same⟩

/-- A rule that comes before those on sites keeps their markers. -/
theorem Makes.evalAttr_heldFrom (makes : p.Makes options f r) (fits : r.matchesAd ad = true)
    (anchored : ad.Anchored) (early : f.category.position ≤ Category.hold.position)
    (site : SiteName) :
    (r.apply ad).evalAttr (Marker.heldFrom site) = ad.evalAttr (Marker.heldFrom site) := by
  obtain ⟨v, stores⟩ := anchored.markers site
  obtain ⟨v', stores', marks⟩ := makes.marks fits stores
  rw [stores.evalAttr, stores'.evalAttr]
  cases marks with
  | kept => rfl
  | held _ family _ _ => exact absurd early (by subst family; decide)
  | released _ family _ _ => exact absurd early (by subst family; decide)
  | reset family _ _ => exact absurd early (by subst family; decide)

theorem AwaitsHold.waits_apply (awaits : p.AwaitsHold options ad) {later : JobAd}
    (anchored : later.Anchored) (same : later.SameTask ad) (waits : Waits ad later)
    (makes : p.Makes options f r) (first : (p.compile options).rules.firstMatch? later = some r)
    (other : f ≠ .hold) : Waits ad (r.apply later) := by
  have fits := (RuleSet.of_firstMatch?_eq_some first).2
  have early := awaits.position_le same waits makes first
  constructor
  · have known : (Marker.hasBeenSetHeld, [Family.hold, .release]) ∈ Family.writers := by
      simp [Family.writers]
    have unwritten : f ∉ [Family.hold, .release] := by
      revert other early
      cases f <;> decide
    obtain ⟨v, stores⟩ := anchored.attributes Marker.hasBeenSetHeld (by simp [anchors])
    have untrue : v ≠ .bool true := stores.evalAttr ▸ waits.free
    rw [(makes.stores_apply_of_ne fits known unwritten stores untrue).evalAttr]
    exact untrue
  · intro site
    exact (makes.evalAttr_heldFrom fits anchored early site).trans (waits.markers site)

theorem AwaitsHold.parked_apply (awaits : p.AwaitsHold options ad) {later : JobAd}
    (anchored : later.Anchored) (same : later.SameTask ad) (makes : p.Makes options .hold r)
    (first : (p.compile options).rules.firstMatch? later = some r) :
    p.Parked options nowhere.text (r.apply later) := by
  have fits := (RuleSet.of_firstMatch?_eq_some first).2
  have sameAfter : (r.apply later).SameTask ad := by
    intro s
    exact (makes.sameTask_apply fits anchored s).trans (same s)
  constructor
  · intro g k makes' keyed
    have overflow : g ∈ [Family.replacement, .master] → k.matchesAd (r.apply later) = false := by
      intro listed
      have earlier : k.matchesAd later = false := by
        apply not_matchesAd_of_earlier makes makes' first
        revert listed
        cases g <;> decide
      obtain ⟨picks, guarded⟩ := makes'.matchesAd_iff_of_keyed keyed
      obtain ⟨families, known, own⟩ : ∃ families, (g.key, families) ∈ Family.writers ∧
          Family.hold ∉ families := by
        simp only [List.mem_cons, List.not_mem_nil, or_false] at listed
        rcases listed with rfl | rfl
        · exact ⟨[.replacement], by simp [Family.writers, Family.key], by decide⟩
        · exact ⟨[.master], by simp [Family.writers, Family.key], by decide⟩
      obtain ⟨v, stores⟩ := anchored.attributes g.key (by cases g <;> simp [Family.key, anchors])
      have kept := (makes.stores_apply fits known own stores).resolve_right (by simp)
      rw [← Bool.not_eq_true, guarded] at earlier ⊢
      have task : ∀ s, (r.apply later).evalAttr Attribute.subtaskName = .str s ↔
          later.evalAttr Attribute.subtaskName = .str s := makes.sameTask_apply fits anchored
      rw [kept.evalAttr, ← stores.evalAttr]
      simpa only [task] using earlier
    simp only [Family.keyed, List.mem_cons, List.not_mem_nil, or_false] at keyed
    rcases keyed with rfl | rfl | rfl | rfl
    · exact overflow (by decide)
    · exact overflow (by decide)
    · exact (makes'.latches rfl).blocks _ ((makes.latches rfl).closes later)
    · exact awaits.not_released makes' sameAfter
  · obtain ⟨selector, _, rfl⟩ := makes.of_hold
    rw [get?_apply_holdTasksRule, awaits.sentinel]
    rfl

/-! ### From there on -/

/-- A property of the whitelist and the markers of a parked job holds in the end, if it holds when
the task is held, with the markers of the start, and every rule that is applied keeps it. -/
theorem AwaitsHold.exists_parked (Holds : String → JobAd → Prop) (awaits : p.AwaitsHold options ad)
    {limit : Nat} (converged : ((p.compile options).rules.run limit ad).1.converged = true)
    (enters : ∀ later : JobAd,
      (∀ site, later.evalAttr (Marker.heldFrom site) = ad.evalAttr (Marker.heldFrom site)) →
        Holds nowhere.text later)
    (kept : ∀ f r later list list', p.Makes options f r →
      (p.compile options).rules.firstMatch? later = some r → r.matchesAd later = true →
      later.Anchored → later.evalAttr Attribute.desiredSites = .str list →
      p.Rewrites options r list list' → Holds list later → Holds list' (r.apply later)) :
    ∃ list, ((p.compile options).rules.run limit ad).2.evalAttr Attribute.desiredSites = .str list ∧
      Holds list ((p.compile options).rules.run limit ad).2 := by
  have settled := settled_of_converged converged
  obtain ⟨_, sameLast⟩ := anchored_run p options limit awaits.literal
  let Reached : JobAd → Prop := fun later =>
    Waits ad later ∨ ∃ list, p.Parked options list later ∧ Holds list later
  have reached : Reached ((p.compile options).rules.run limit ad).2 := by
    apply holds_run_of_literal limit awaits.literal
    · rintro f r later makes first fits anchored task (waits | ⟨list, parked, holds⟩)
      · have same : later.SameTask ad := fun s => (task s).trans (sameLast s)
        by_cases hold : f = .hold
        · subst hold
          have early := awaits.position_le same waits makes first
          refine .inr ⟨_, awaits.parked_apply anchored same makes first, enters _ ?_⟩
          intro site
          exact (makes.evalAttr_heldFrom fits anchored early site).trans (waits.markers site)
        · exact .inl (awaits.waits_apply anchored same waits makes first hold)
      · obtain ⟨list', bound, rewrites⟩ :=
          makes.rewrites fits (parked.quiet.unkeyed makes fits) parked.whitelist
        refine .inr ⟨list', ⟨parked.quiet.apply settled task anchored makes fits, bound⟩, ?_⟩
        exact kept f r later list list' makes first fits anchored
          (JobAd.evalAttr_of_lit parked.whitelist) rewrites holds
    · exact .inl ⟨awaits.free, fun _ => rfl⟩
  rcases reached with waits | ⟨list, parked, holds⟩
  · -- A job that still waits matches the rule that holds it.
    obtain ⟨selector, selects, selected⟩ := awaits.exists_rule
    have fits : (holdTasksRule options selector).matchesAd
        ((p.compile options).rules.run limit ad).2 = true :=
      matchesAd_holdTasksRule_iff.2 ⟨waits.free, selected _ sameLast⟩
    rw [settled _ _ (.hold selects)] at fits
    cases fits
  · exact ⟨list, JobAd.evalAttr_of_lit parked.whitelist, holds⟩

/-! ### Policies that leave a parked job alone -/

/-- The first released site of a spelling: its rule serves the marker that they share. -/
def firstReleased? (p : Policy) (site : SiteName) : Option SiteName :=
  (validSites p.releaseSite).find? fun other => Text.sameIgnoringCase other.text site.text

/-- If the policy holds the nowhere site, then its marker is set for good, and if a site is released
that the job is marked with, then in the shape of the nowhere site. -/
structure LeavesParked (p : Policy) (ad : JobAd) : Prop where
  held : nowhere ∈ p.heldSites →
    ad.evalAttr (Marker.heldFrom nowhere) = .bool true ∧ ¬ p.Resets (Marker.heldFrom nowhere)
  released : ∀ site ∈ validSites p.releaseSite, ad.evalAttr (Marker.heldFrom site) = .bool true →
    p.firstReleased? site = some nowhere

theorem evalAttr_heldFrom_congr {site other : SiteName} (ad : JobAd)
    (same : Text.sameIgnoringCase site.text other.text = true) :
    ad.evalAttr (Marker.heldFrom site) = ad.evalAttr (Marker.heldFrom other) :=
  ad.evalAttr_congr (Text.sameIgnoringCase_iff.1
    ((Marker.sameIgnoringCase_heldFrom site other).trans same))

theorem LeavesParked.not_released (leaves : p.LeavesParked ad) (held : nowhere ∈ p.heldSites)
    {other : SiteName} (listed : other ∈ validSites p.releaseSite) :
    Text.sameIgnoringCase other.text nowhere.text = false := by
  rw [Bool.eq_false_iff]
  intro same
  have marked := (evalAttr_heldFrom_congr ad same).trans (leaves.held held).1
  have first := leaves.released other listed marked
  exact ne_of_heldSites held (List.mem_of_find?_eq_some first) rfl

theorem LeavesParked.marked_apply (leaves : p.LeavesParked ad) (held : nowhere ∈ p.heldSites)
    {later : JobAd} (makes : p.Makes options f r) (fits : r.matchesAd later = true)
    (anchored : later.Anchored) (marked : later.evalAttr (Marker.heldFrom nowhere) = .bool true) :
    (r.apply later).evalAttr (Marker.heldFrom nowhere) = .bool true := by
  obtain ⟨v, stores⟩ := anchored.markers nowhere
  obtain ⟨v', stores', marks⟩ := makes.marks fits stores
  rw [stores'.evalAttr]
  cases marks with
  | kept => exact stores.evalAttr.symm.trans marked
  | held _ _ _ _ => rfl
  | released listed _ _ same =>
      rw [leaves.not_released held listed] at same
      cases same
  | reset _ _ resets => exact absurd resets (leaves.held held).2

structure HasNowhere (p : Policy) (list : String) (ad : JobAd) : Prop where
  listed : nowhere.text ∈ SiteList.entries list
  done : nowhere ∈ p.heldSites → ad.evalAttr (Marker.heldFrom nowhere) = .bool true

theorem HasNowhere.not_holdSiteRule {later : JobAd} (has : p.HasNowhere list later)
    (fits : r.matchesAd later = true) {site : SiteName} (listed : site ∈ p.heldSites)
    (own : r = holdSiteRule site) : site ≠ nowhere := by
  rintro rfl
  subst own
  exact (matchesAd_holdSiteRule_iff.1 fits).2 (has.done listed)

theorem HasNowhere.apply (leaves : p.LeavesParked ad) {later : JobAd}
    (makes : p.Makes options f r) (fits : r.matchesAd later = true) (anchored : later.Anchored)
    (value : later.evalAttr Attribute.desiredSites = .str list)
    (rewrites : p.Rewrites options r list list') (has : p.HasNowhere list later) :
    p.HasNowhere list' (r.apply later) where
  listed := by
    apply rewrites.mem_entries has.listed
    · intro site listed own same
      exact has.not_holdSiteRule fits listed own (SiteName.text_injective same.symm)
    · exact ne_multicoreRule_of_nowhere fits value has.listed
  done := fun held => leaves.marked_apply held makes fits anchored (has.done held)

/-- No released site shares its marker with a held one that the nowhere site mentions: their two
rules would take turns. -/
theorem LeavesParked.apart (leaves : p.LeavesParked ad) (awaits : p.AwaitsHold options ad)
    {limit : Nat} (converged : ((p.compile options).rules.run limit ad).1.converged = true)
    {site other : SiteName} (held : site ∈ p.heldSites)
    (mentioned : (Value.str nowhere.text).matchesPattern site.text = .bool true)
    (released : other ∈ validSites p.releaseSite) :
    Text.sameIgnoringCase site.text other.text = false := by
  have settled := settled_of_converged converged
  obtain ⟨list, value, has⟩ := awaits.exists_parked p.HasNowhere converged
    (fun later markers => ⟨by simp [SiteList.entries_nowhere], fun own =>
      (markers nowhere).trans (leaves.held own).1⟩)
    (fun f r later list list' makes _ fits anchored value rewrites has =>
      has.apply leaves makes fits anchored value rewrites)
  rw [Bool.eq_false_iff]
  intro same
  obtain ⟨readable, inside⟩ := SiteName.matchesPattern_iff.1 mentioned
  have pattern := SiteName.matchesPattern_iff.2
    ⟨readable, inside.trans (SiteList.infix_of_mem has.listed)⟩
  have unmarked : ¬ (releaseSiteRule other).matchesAd _ = true :=
    Bool.eq_false_iff.1 (settled _ _ (.releaseSite released))
  rw [matchesAd_releaseSiteRule_iff, ← evalAttr_heldFrom_congr _ same] at unmarked
  exact unmarked (settled.marked_of_mentioned held ((congrArg _ value).trans pattern))

/-- The whitelist is the nowhere site alone, and no rule is left that changes that. -/
structure OnlyNowhere (p : Policy) (list : String) (ad : JobAd) : Prop where
  alone : list = nowhere.text
  done : nowhere ∈ p.heldSites → ad.evalAttr (Marker.heldFrom nowhere) = .bool true
  released : ∀ site ∈ validSites p.releaseSite, ad.evalAttr (Marker.heldFrom site) = .bool true →
    p.firstReleased? site = some nowhere

theorem not_t0SpillRule_of_nowhere (fits : r.matchesAd ad = true)
    (value : ad.evalAttr Attribute.desiredSites = .str nowhere.text) : r ≠ t0SpillRule := by
  rintro rfl
  have pattern := Guard.holds_iff.1 fits _ List.mem_cons_self
  rw [JobAd.eval_matchesRegex, AttrRef.name_plain, value] at pattern
  have silent : ((Value.str nowhere.text).matchesPattern t0Site).isTrue = false := by
    decide +kernel
  rw [pattern] at silent
  cases silent

theorem OnlyNowhere.alone_apply {later : JobAd} (only : p.OnlyNowhere list later)
    (makes : p.Makes options f r) (first : (p.compile options).rules.firstMatch? later = some r)
    (value : later.evalAttr Attribute.desiredSites = .str list)
    (rewrites : p.Rewrites options r list list') : list' = nowhere.text := by
  have fits := (RuleSet.of_firstMatch?_eq_some first).2
  obtain rfl := only.alone
  cases rewrites with
  | kept _ => rfl
  | sorted _ => exact SiteList.sorted_nowhere
  | @without site listed own =>
      have has : p.HasNowhere nowhere.text later :=
        ⟨by simp [SiteList.entries_nowhere], only.done⟩
      exact SiteList.without_nowhere (has.not_holdSiteRule fits listed own)
  | @restored site listed own =>
      subst own
      have marked := matchesAd_releaseSiteRule_iff.1 fits
      have serves := only.released site listed marked
      have same := List.find?_some serves
      have fitsNowhere : (releaseSiteRule nowhere).matchesAd later = true := by
        rw [matchesAd_releaseSiteRule_iff, evalAttr_heldFrom_congr later same]
        exact marked
      have releases : p.Makes options .releaseSite (releaseSiteRule site) := .releaseSite listed
      have own := site_eq_of_firstMatch? releases (rules_compileReleaseSite p)
        releaseSiteRule_injective first serves (Text.sameIgnoringCase_refl _) fitsNowhere
      rw [own]
      exact SiteList.restored_nowhere
  | spilled _ own => exact absurd own (not_t0SpillRule_of_nowhere fits value)
  | corrected _ own =>
      have listed : nowhere.text ∈ SiteList.entries nowhere.text := by
        simp [SiteList.entries_nowhere]
      exact absurd own (ne_multicoreRule_of_nowhere fits value listed)

theorem LeavesParked.evalAttr_desiredSites (leaves : p.LeavesParked ad)
    (awaits : p.AwaitsHold options ad) {limit : Nat}
    (converged : ((p.compile options).rules.run limit ad).1.converged = true) :
    ((p.compile options).rules.run limit ad).2.evalAttr Attribute.desiredSites =
      .str nowhere.text := by
  obtain ⟨list, value, only⟩ := awaits.exists_parked p.OnlyNowhere converged
    (by
      intro later markers
      constructor
      · rfl
      · exact fun own => (markers nowhere).trans (leaves.held own).1
      · intro site listed marked
        exact leaves.released site listed ((markers site).symm.trans marked))
    (by
      intro f r later list list' makes first fits anchored value rewrites only
      constructor
      · exact only.alone_apply makes first value rewrites
      · exact fun own => leaves.marked_apply own makes fits anchored (only.done own)
      · intro site listed marked
        obtain ⟨v, stores⟩ := anchored.markers site
        obtain ⟨v', stores', marks⟩ := makes.marks fits stores
        have truth : v' = .bool true := stores'.evalAttr.symm.trans marked
        cases marks with
        | kept => exact only.released site listed (stores.evalAttr.trans truth)
        | @held other held _ own same =>
            obtain rfl := only.alone
            subst own
            have pattern := (matchesAd_holdSiteRule_iff.1 fits).1
            rw [value] at pattern
            rw [leaves.apart awaits converged held pattern listed] at same
            cases same
        | released _ _ _ _ => cases truth
        | reset _ _ _ => cases truth)
  rw [value, only.alone]

/-! ### Policies that disturb a parked job -/

/-- A released site stands in the whitelist, or the nowhere site is out of it for good. -/
structure Disturbed (p : Policy) (list : String) : Prop where
  listed : nowhere ∉ p.heldSites → nowhere.text ∈ SiteList.entries list
  other : (∃ site ∈ validSites p.releaseSite, site ≠ nowhere ∧ site.text ∈ SiteList.entries list) ∨
    (nowhere ∈ p.heldSites ∧ nowhere.text ∉ SiteList.entries list)

theorem Disturbed.ne_nowhere (disturbed : p.Disturbed list) : list ≠ nowhere.text := by
  rintro rfl
  have listed : nowhere.text ∈ SiteList.entries nowhere.text := by
    simp [SiteList.entries_nowhere]
  rcases disturbed.other with ⟨site, _, other, beside⟩ | ⟨_, gone⟩
  · rw [SiteList.entries_nowhere, List.mem_singleton] at beside
    exact other (SiteName.text_injective beside)
  · exact gone listed

theorem not_putsIn_nowhere (r : Rule) : ¬ r.PutsIn nowhere := by
  rintro (⟨_, same⟩ | ⟨_, listed⟩)
  · exact absurd same (by decide +kernel)
  · exact absurd listed (by decide +kernel)

/-- A held site that is out of a whitelist stays out unless a correction puts it in. -/
theorem Rewrites.not_mem_entries {site : SiteName} (rewrites : p.Rewrites options r list list')
    (held : site ∈ p.heldSites) (unlisted : ¬ r.PutsIn site)
    (out : site.text ∉ SiteList.entries list) : site.text ∉ SiteList.entries list' := by
  cases rewrites with
  | kept _ => exact out
  | sorted _ => rwa [SiteList.mem_entries_sorted]
  | without _ _ =>
      rw [SiteList.mem_entries_without]
      exact fun member => out member.1
  | @restored other released _ =>
      rw [SiteList.mem_entries_restored other.isEntry]
      rintro (member | same)
      · exact out member
      · exact ne_of_heldSites held released same
  | spilled _ own =>
      rw [SiteList.mem_entries_adding isEntry_t0OverflowSite]
      rintro (member | same)
      · exact out member
      · exact unlisted (.inl ⟨own, same⟩)
  | corrected _ own => exact fun member => unlisted (.inr ⟨own, member⟩)

theorem Disturbed.apply (disturbed : p.Disturbed list) (fits : r.matchesAd ad = true)
    (value : ad.evalAttr Attribute.desiredSites = .str list)
    (rewrites : p.Rewrites options r list list') : p.Disturbed list' where
  listed := by
    intro unheld
    have parked := disturbed.listed unheld
    apply rewrites.mem_entries parked
    · intro site held _ same
      obtain rfl := SiteName.text_injective same
      exact unheld held
    · exact ne_multicoreRule_of_nowhere fits value parked
  other := by
    rcases disturbed.other with ⟨site, released, other, beside⟩ | ⟨held, gone⟩
    · by_cases multicore : r = multicoreRule
      · right
        have gone : nowhere.text ∉ SiteList.entries list := fun parked =>
          ne_multicoreRule_of_nowhere fits value parked multicore
        have held : nowhere ∈ p.heldSites := by
          by_contra unheld
          exact gone (disturbed.listed unheld)
        exact ⟨held, rewrites.not_mem_entries held (not_putsIn_nowhere r) gone⟩
      · left
        refine ⟨site, released, other, rewrites.mem_entries beside ?_ multicore⟩
        intro held listed _ same
        exact ne_of_heldSites listed released same.symm
    · exact .inr ⟨held, rewrites.not_mem_entries held (not_putsIn_nowhere r) gone⟩

/-- The nowhere site stands alone, its marker is set only if it was so at the start, and the other
markers that a release waits for are still set. -/
structure Undisturbed (p : Policy) (start : JobAd) (list : String) (ad : JobAd) : Prop where
  alone : list = nowhere.text
  done : nowhere ∈ p.heldSites → ad.evalAttr (Marker.heldFrom nowhere) = .bool true →
    start.evalAttr (Marker.heldFrom nowhere) = .bool true
  pending : ∀ site ∈ validSites p.releaseSite, p.firstReleased? site = some site →
    site ≠ nowhere → start.evalAttr (Marker.heldFrom site) = .bool true →
      ad.evalAttr (Marker.heldFrom site) = .bool true

theorem disturbed_or_alone (fits : r.matchesAd ad = true)
    (value : ad.evalAttr Attribute.desiredSites = .str nowhere.text)
    (rewrites : p.Rewrites options r nowhere.text list') :
    p.Disturbed list' ∨ (list' = nowhere.text ∧
      ∀ site, (r = holdSiteRule site → site ≠ nowhere) ∧
        (r = releaseSiteRule site → site = nowhere)) := by
  have listed : nowhere.text ∈ SiteList.entries nowhere.text := by
    simp [SiteList.entries_nowhere]
  cases rewrites with
  | kept elsewhere =>
      refine .inr ⟨rfl, fun site => ?_⟩
      exact ⟨fun own => absurd own (elsewhere site).1, fun own => absurd own (elsewhere site).2⟩
  | sorted elsewhere =>
      refine .inr ⟨SiteList.sorted_nowhere, fun site => ?_⟩
      exact ⟨fun own => absurd own (elsewhere site).1, fun own => absurd own (elsewhere site).2⟩
  | @without site held own =>
      subst own
      by_cases gone : site = nowhere
      · subst gone
        refine .inl ⟨fun unheld => absurd held unheld, .inr ⟨held, ?_⟩⟩
        rw [SiteList.mem_entries_without]
        exact fun member => member.2 rfl
      · refine .inr ⟨SiteList.without_nowhere gone, fun other => ?_⟩
        exact ⟨fun own => holdSiteRule_injective own ▸ gone,
          fun own => absurd own (holdSiteRule_ne site other)⟩
  | @restored site released own =>
      subst own
      have kept : ∀ entry, entry ∈ SiteList.entries nowhere.text ∨ entry = site.text →
          entry ∈ SiteList.entries (SiteList.restored nowhere.text site.text) :=
        fun _ => (SiteList.mem_entries_restored site.isEntry).2
      by_cases same : site = nowhere
      · subst same
        refine .inr ⟨SiteList.restored_nowhere, fun other => ?_⟩
        exact ⟨fun own => absurd own.symm (holdSiteRule_ne other nowhere),
          fun own => (releaseSiteRule_injective own).symm⟩
      · exact .inl ⟨fun _ => kept _ (.inl listed), .inl ⟨site, released, same, kept _ (.inr rfl)⟩⟩
  | spilled _ own => exact absurd own (not_t0SpillRule_of_nowhere fits value)
  | corrected _ own => exact absurd own (ne_multicoreRule_of_nowhere fits value listed)

theorem Undisturbed.apply {start : JobAd} (undisturbed : p.Undisturbed start list ad)
    (makes : p.Makes options f r) (first : (p.compile options).rules.firstMatch? ad = some r)
    (anchored : ad.Anchored) (value : ad.evalAttr Attribute.desiredSites = .str list)
    (rewrites : p.Rewrites options r list list') :
    p.Disturbed list' ∨ p.Undisturbed start list' (r.apply ad) := by
  have fits := (RuleSet.of_firstMatch?_eq_some first).2
  obtain rfl := undisturbed.alone
  rcases disturbed_or_alone fits value rewrites with disturbed | ⟨alone, onSite⟩
  · exact .inl disturbed
  refine .inr ⟨alone, ?_, ?_⟩
  · intro held marked
    obtain ⟨v, stores⟩ := anchored.markers nowhere
    obtain ⟨v', stores', marks⟩ := makes.marks fits stores
    have truth : v' = .bool true := stores'.evalAttr.symm.trans marked
    cases marks with
    | kept => exact undisturbed.done held (stores.evalAttr.trans truth)
    | @held other _ _ own same =>
        have pattern : (ad.evalAttr Attribute.desiredSites).matchesPattern other.text =
            .bool true := by
          subst own
          exact (matchesAd_holdSiteRule_iff.1 fits).1
        rw [value] at pattern
        have inside := (SiteName.matchesPattern_iff.1 pattern).2
        exact absurd (eq_nowhere_of_inside inside same) ((onSite other).1 own)
    | released _ _ _ _ => cases truth
    | reset _ _ _ => cases truth
  · intro site listed serves other before
    have marked := undisturbed.pending site listed serves other before
    obtain ⟨v, stores⟩ := anchored.markers site
    obtain ⟨v', stores', marks⟩ := makes.marks fits stores
    have matched : (releaseSiteRule site).matchesAd ad = true :=
      matchesAd_releaseSiteRule_iff.2 marked
    cases marks with
    | kept => exact stores'.evalAttr.trans (stores.evalAttr.symm.trans marked)
    | held _ _ _ _ => exact stores'.evalAttr
    | @released applied released _ own same =>
        subst own
        have releases : p.Makes options .releaseSite (releaseSiteRule applied) :=
          .releaseSite released
        have chosen := site_eq_of_firstMatch? releases (rules_compileReleaseSite p)
          releaseSiteRule_injective first serves same matched
        exact absurd (chosen.symm.trans ((onSite applied).2 rfl)) other
    | reset family _ _ =>
        subst family
        have earlier := not_matchesAd_of_earlier makes
          (.releaseSite listed : p.Makes options .releaseSite (releaseSiteRule site)) first
          (by decide)
        rw [matched] at earlier
        cases earlier

/-- Where no rule matches, a marker that was set at the start is served by the nowhere site. -/
theorem Undisturbed.serves {start : JobAd} {site : SiteName}
    (undisturbed : p.Undisturbed start list final) (settled : p.Settled options final)
    (listed : site ∈ validSites p.releaseSite)
    (marked : start.evalAttr (Marker.heldFrom site) = .bool true) :
    p.firstReleased? site = some nowhere := by
  cases serves : p.firstReleased? site with
  | none =>
      have missed := List.find?_eq_none.1 serves site listed
      rw [Text.sameIgnoringCase_refl] at missed
      exact absurd rfl missed
  | some first =>
      have found := serves
      rw [firstReleased?] at found
      have same := List.find?_some found
      have member : first ∈ validSites p.releaseSite := List.mem_of_find?_eq_some serves
      refine congrArg some ?_
      by_contra other
      have own : p.firstReleased? first = some first := by
        rw [← serves, firstReleased?, firstReleased?]
        simp only [Text.sameIgnoringCase, Text.sameIgnoringCase_iff.1 same]
      have pending := undisturbed.pending first member own other
        ((evalAttr_heldFrom_congr start same).trans marked)
      have fits := matchesAd_releaseSiteRule_iff.2 pending
      rw [settled _ _ (.releaseSite member)] at fits
      cases fits

theorem leavesParked_of_evalAttr (awaits : p.AwaitsHold options ad) {limit : Nat}
    (converged : ((p.compile options).rules.run limit ad).1.converged = true)
    (value : ((p.compile options).rules.run limit ad).2.evalAttr Attribute.desiredSites =
      .str nowhere.text) : p.LeavesParked ad := by
  have settled := settled_of_converged converged
  let Holds : String → JobAd → Prop := fun list later =>
    p.Disturbed list ∨ p.Undisturbed ad list later
  obtain ⟨list, value', holds⟩ := awaits.exists_parked Holds converged
    (by
      intro later markers
      refine .inr ⟨rfl, ?_, ?_⟩
      · exact fun _ marked => (markers nowhere).symm.trans marked
      · exact fun site _ _ _ marked => (markers site).trans marked)
    (by
      rintro f r later list list' makes first fits anchored value rewrites
        (disturbed | undisturbed)
      · exact .inl (disturbed.apply fits value rewrites)
      · exact undisturbed.apply makes first anchored value rewrites)
  have same : Value.str nowhere.text = .str list := value.symm.trans value'
  rw [Value.str.injEq] at same
  subst same
  have undisturbed := holds.resolve_left fun disturbed => disturbed.ne_nowhere rfl
  have pattern : (Value.str nowhere.text).matchesPattern nowhere.text = .bool true :=
    Value.isTrue_iff.1 (by decide +kernel)
  constructor
  · intro held
    have marked := settled.marked_of_mentioned held ((congrArg _ value).trans pattern)
    exact ⟨undisturbed.done held marked, settled.not_resets marked⟩
  · intro site listed marked
    exact undisturbed.serves settled listed marked

/-- A job whose task is held ends with the nowhere site alone exactly if the policy leaves parked
jobs with its markers alone: no rule takes that site out, and none appends a site to it. -/
theorem parked_iff_leavesParked (p : Policy) (options : CompileOptions) (ad : JobAd)
    (awaits : p.AwaitsHold options ad) (limit : Nat)
    (converged : ((p.compile options).rules.run limit ad).1.converged = true) :
    ((p.compile options).rules.run limit ad).2.evalAttr Attribute.desiredSites =
        .str CompileOptions.defaultHoldSite ↔ p.LeavesParked ad := by
  constructor
  · exact leavesParked_of_evalAttr awaits converged
  · intro leaves
    exact leaves.evalAttr_desiredSites awaits converged

def taskHeld : Policy :=
  { empty with
    hold := SortedMap.empty.insert "/wf/A" []
    holdSite := ["T1_US_FNAL"] }

def taskHeldSiteReleased : Policy :=
  { empty with
    hold := SortedMap.empty.insert "/wf/A" []
    releaseSite := ["T2_CH_CERN"] }

/-- A job of that task which an earlier policy kept from the released site. -/
def keptFromCern : JobAd :=
  (((JobAd.empty.assign Attribute.subtaskName (.str "/wf/A")).assign Attribute.desiredSites
    (.str "T1_US_FNAL")).assign "HasBeenHeldFromT2_CH_CERN" (.bool true)).assign
      Marker.hasPrioCorrection (.bool true)

theorem awaitsHold_keptFromCern (held : "/wf/A" ∈ p.hold.keys)
    (unreleased : p.release.toList = []) : p.AwaitsHold withoutFixes keptFromCern where
  literal := by
    have read : JobAd.ofJson (.object [(Attribute.subtaskName, .string "/wf/A"),
        (Attribute.desiredSites, .string "T1_US_FNAL"), ("HasBeenHeldFromT2_CH_CERN", .bool true),
        (Marker.hasPrioCorrection, .bool true)]) = .ok keptFromCern := rfl
    exact JobAd.literal_of_ofJson read
  sentinel := rfl
  named := ⟨"/wf/A", rfl, held, by simp [unreleased]⟩
  free := by
    rw [show keptFromCern.evalAttr Marker.hasBeenSetHeld = .undefined from rfl]
    exact nofun

theorem parked_taskHeld :
    taskHeld.AwaitsHold withoutFixes keptFromCern ∧
      ((taskHeld.compile withoutFixes).rules.run 2 keptFromCern).1.converged = true ∧
        ((taskHeld.compile withoutFixes).rules.run 2 keptFromCern).2.evalAttr
          Attribute.desiredSites = .str CompileOptions.defaultHoldSite := by
  have awaits : taskHeld.AwaitsHold withoutFixes keptFromCern :=
    awaitsHold_keptFromCern (by decide +kernel) rfl
  have converged : ((taskHeld.compile withoutFixes).rules.run 2 keptFromCern).1.converged =
      true := by
    decide +kernel
  refine ⟨awaits, converged, ?_⟩
  apply (parked_iff_leavesParked taskHeld withoutFixes keptFromCern awaits 2 converged).2
  constructor
  · intro held
    exact absurd held (by decide +kernel)
  · intro site listed
    cases listed

/-- The site is released while the task is held, and joins the nowhere site. -/
theorem not_parked_taskHeldSiteReleased :
    taskHeldSiteReleased.AwaitsHold withoutFixes keptFromCern ∧
      ((taskHeldSiteReleased.compile withoutFixes).rules.run 2 keptFromCern).1.converged = true ∧
        ((taskHeldSiteReleased.compile withoutFixes).rules.run 2 keptFromCern).2.evalAttr
          Attribute.desiredSites = .str "T2_NW_NOWHERE,T2_CH_CERN" := by
  have awaits : taskHeldSiteReleased.AwaitsHold withoutFixes keptFromCern :=
    awaitsHold_keptFromCern (by decide +kernel) rfl
  have converged :
      ((taskHeldSiteReleased.compile withoutFixes).rules.run 2 keptFromCern).1.converged =
        true := by
    decide +kernel
  have value : (((taskHeldSiteReleased.compile withoutFixes).rules.run 2
      keptFromCern).2.evalAttr Attribute.desiredSites).identical
        (.str "T2_NW_NOWHERE,T2_CH_CERN") = true := by
    decide +kernel
  exact ⟨awaits, converged, Value.identical_str_iff.1 value⟩

end Policy

end RoutingPolicy

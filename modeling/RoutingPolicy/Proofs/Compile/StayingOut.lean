import RoutingPolicy.Proofs.Compile.Quiet

/-!
# Held sites stay out

A site that is held is taken out of the whitelist once, and its marker keeps its rule from acting
again. So it stays out only if nothing puts it back. Releases and the rules for tasks do not, as the
run shows; what does are the fixed corrections, each for sites of its own. The site is back exactly
if one of these was applied and no rule behind it has taken the site out. And the marker is the
wrong one where another held site has the same name but for case: its rule may come first.
-/

namespace RoutingPolicy

set_option autoImplicit false

open Compile Compile.Hold Compile.Correction

/-! ### Markers that an ad does not have -/

theorem JobAd.get?_eq_none_of_unmarked {ad : JobAd}
    (unmarked : ∀ b ∈ ad.toList, Marker.isHeldFrom b.name = false) (site : SiteName) :
    ad.get? (Marker.heldFrom site) = none := by
  rw [get?, Option.map_eq_none_iff]
  cases bound : ad.entries.get? (Text.foldCase (Marker.heldFrom site)) with
  | none => rfl
  | some b =>
      have entry := SortedMap.get?_eq_some_iff.1 bound
      have spelled : Text.sameIgnoringCase (Marker.heldFrom site) b.name = true :=
        Text.sameIgnoringCase_iff.2 (ad.keyed _ entry)
      have marked := Marker.isHeldFrom_heldFrom site
      rw [Marker.isHeldFrom_congr spelled, unmarked b (List.mem_map_of_mem entry)] at marked
      cases marked

theorem Value.exists_str_of_matchesPattern {v : Value} {pattern : String}
    (fits : v.matchesPattern pattern = .bool true) : ∃ list, v = .str list := by
  cases v with
  | str list => exact ⟨list, rfl⟩
  | _ => cases fits

theorem JobAd.Anchored.get?_desiredSites {ad : JobAd} {list : String} (anchored : ad.Anchored)
    (value : ad.evalAttr Attribute.desiredSites = .str list) :
    ad.get? Attribute.desiredSites = some (.lit (.str list)) := by
  obtain ⟨v, stores⟩ := anchored.attributes Attribute.desiredSites (by simp [anchors])
  obtain rfl : v = .str list := stores.evalAttr.symm.trans value
  exact stores.get?_eq (by simp)

/-! ### What puts a site back -/

/-- A correction that puts the site into whitelists. -/
def Rule.PutsIn (r : Rule) (site : SiteName) : Prop :=
  r = t0SpillRule ∧ site.text = t0OverflowSite ∨
    r = multicoreRule ∧ site.text ∈ SiteList.entries "T1_ES_PIC,T2_ES_CIEMAT"

theorem Rule.exists_str_of_putsIn {r : Rule} {site : SiteName} {ad : JobAd} (puts : r.PutsIn site)
    (fits : r.matchesAd ad = true) : ∃ list, ad.evalAttr Attribute.desiredSites = .str list := by
  rcases puts with ⟨rfl, _⟩ | ⟨rfl, _⟩
  · have pattern := Guard.holds_iff.1 fits _ List.mem_cons_self
    rw [JobAd.eval_matchesRegex, AttrRef.name_plain] at pattern
    exact Value.exists_str_of_matchesPattern pattern
  · have equal := Guard.holds_iff.1 fits _ List.mem_cons_self
    rw [JobAd.eval_compareTo, AttrRef.name_plain] at equal
    cases value : ad.evalAttr Attribute.desiredSites with
    | str list => exact ⟨list, rfl⟩
    | _ =>
        rw [value] at equal
        cases equal

/-- The rule that holds the site, or the correction that replaces whitelists. -/
def Rule.TakesOut (r : Rule) (site : SiteName) : Prop := r = holdSiteRule site ∨ r = multicoreRule

/-- Of the rules that were applied, a correction put the site in, and none after it took it out. -/
def SiteName.PutBackBy (site : SiteName) (fired : List Rule) : Prop :=
  ∃ before r after, fired = before ++ r :: after ∧ r.PutsIn site ∧
    ∀ later ∈ after, ¬ later.TakesOut site

theorem SiteName.putBackBy_concat {site : SiteName} {fired : List Rule} {r : Rule} :
    site.PutBackBy (fired ++ [r]) ↔ r.PutsIn site ∨ site.PutBackBy fired ∧ ¬ r.TakesOut site := by
  constructor
  · rintro ⟨before, put, after, split, puts, kept⟩
    rcases List.eq_nil_or_concat after with rfl | ⟨after, last, rfl⟩
    · obtain ⟨_, same⟩ := List.append_inj' split rfl
      rw [List.singleton_inj.1 same]
      exact .inl puts
    · rw [List.concat_eq_append, ← List.cons_append, ← List.append_assoc] at split
      obtain ⟨rfl, same⟩ := List.append_inj' split rfl
      obtain rfl := List.singleton_inj.1 same
      rw [List.concat_eq_append, List.forall_mem_append, List.forall_mem_singleton] at kept
      exact .inr ⟨⟨before, put, after, rfl, puts, kept.1⟩, kept.2⟩
  · rintro (puts | ⟨⟨before, put, after, rfl, puts, kept⟩, stays⟩)
    · exact ⟨fired, r, [], rfl, puts, List.forall_mem_nil _⟩
    · refine ⟨before, put, after ++ [r], by simp, puts, ?_⟩
      exact List.forall_mem_append.2 ⟨kept, List.forall_mem_singleton.2 stays⟩

theorem holdSiteRule_ne_t0SpillRule (site : SiteName) : holdSiteRule site ≠ t0SpillRule :=
  fun same => nomatch congrArg Rule.category same

theorem holdSiteRule_ne_multicoreRule (site : SiteName) : holdSiteRule site ≠ multicoreRule :=
  fun same => nomatch congrArg Rule.category same

theorem holdSiteRule_ne_releaseSiteRule (site other : SiteName) :
    holdSiteRule site ≠ releaseSiteRule other :=
  fun same => nomatch congrArg Rule.category same

theorem t0SpillRule_ne_multicoreRule : t0SpillRule ≠ multicoreRule :=
  fun same => absurd (congrArg Rule.name same) (by decide +kernel)

namespace Policy

variable {p : Policy} {options : CompileOptions} {f : Family} {r : Rule} {ad final : JobAd}
  {site : SiteName}

/-! ### Sites that are held -/

/-- Of the held sites whose name can be read as a pattern, the site is the first with its name, case
disregarded. -/
def HoldsFirst (p : Policy) (site : SiteName) : Prop :=
  (p.heldSites.find? fun other => (Regex.read? other.text).isSome &&
    Text.sameIgnoringCase other.text site.text) = some site

def correctedSites : List String := ["T2_CH_CERN", "T1_ES_PIC", "T2_ES_CIEMAT"]

theorem HoldsFirst.readable (first : p.HoldsFirst site) :
    (Regex.read? site.text).isSome = true := by
  have passes := List.find?_some first
  rw [Bool.and_eq_true] at passes
  exact passes.1

theorem HoldsFirst.mem_heldSites (first : p.HoldsFirst site) : site ∈ p.heldSites :=
  List.mem_of_find?_eq_some first

theorem HoldsFirst.eq_of_firstMatch? {other : SiteName} (first : p.HoldsFirst site)
    (listed : other ∈ p.heldSites)
    (same : Text.sameIgnoringCase other.text site.text = true)
    (matched : (p.compile options).rules.firstMatch? ad = some (holdSiteRule other))
    (fits : (holdSiteRule site).matchesAd ad = true) : other = site := by
  have makes : p.Makes options .holdSite (holdSiteRule other) := .holdSite listed
  have readable := readable_of_holdSite (RuleSet.of_firstMatch?_eq_some matched).2
  exact site_eq_of_firstMatch? makes (rules_compileHoldSite p) holdSiteRule_injective matched first
    (by simp [readable, same]) fits

/-! ### Whitelists that are not rewritten for the task -/

/-- Where the whitelist is not rewritten for the task, a held site comes in by a correction, and
goes by its own rule or where the whitelist is replaced. -/
theorem Makes.mem_entries_iff {list : String} (makes : p.Makes options f r)
    (fits : r.matchesAd ad = true) (unkeyed : f ∉ Family.keyed) (held : site ∈ p.heldSites)
    (bound : ad.get? Attribute.desiredSites = some (.lit (.str list))) :
    ∃ list', (r.apply ad).get? Attribute.desiredSites = some (.lit (.str list')) ∧
      (site.text ∈ SiteList.entries list' ↔
        r.PutsIn site ∨ site.text ∈ SiteList.entries list ∧ ¬ r.TakesOut site) := by
  by_cases spill : r = t0SpillRule
  · subst spill
    refine ⟨_, get?_apply_t0SpillRule bound, ?_⟩
    simp [SiteList.mem_entries_adding isEntry_t0OverflowSite, Rule.PutsIn, Rule.TakesOut,
      t0SpillRule_ne_multicoreRule, (holdSiteRule_ne_t0SpillRule site).symm, or_comm]
  by_cases multicore : r = multicoreRule
  · subst multicore
    refine ⟨_, get?_apply_multicoreRule ad, ?_⟩
    simp [Rule.PutsIn, Rule.TakesOut, t0SpillRule_ne_multicoreRule.symm]
  obtain ⟨list', bound', rewrites⟩ := makes.rewrites fits unkeyed bound
  refine ⟨list', bound', ?_⟩
  simp only [Rule.PutsIn, Rule.TakesOut, spill, multicore, false_and, or_false, false_or]
  cases rewrites with
  | kept elsewhere => simp [(elsewhere site).1]
  | sorted elsewhere => simp [SiteList.mem_entries_sorted, (elsewhere site).1]
  | @without other listed own =>
      have apart : site.text ≠ other.text ↔ ¬ r = holdSiteRule site := by
        rw [own, holdSiteRule_injective.eq_iff, SiteName.text_injective.ne_iff, eq_comm]
      rw [SiteList.mem_entries_without, apart]
  | @restored other released own =>
      rw [SiteList.mem_entries_restored other.isEntry, own]
      simp [ne_of_heldSites held released, (holdSiteRule_ne_releaseSiteRule site other).symm]
  | spilled _ own => exact absurd own spill
  | corrected _ own => exact absurd own multicore

/-! ### Whole runs -/

variable {fired : List Rule}

/-- No rule rewrites the whitelist for the task any more, and the site is an entry of it only if the
rules that were applied have put it back. -/
def Decided (p : Policy) (options : CompileOptions) (site : SiteName) (fired : List Rule)
    (ad : JobAd) : Prop :=
  p.Quiet options ad ∧ ∃ list, ad.get? Attribute.desiredSites = some (.lit (.str list)) ∧
    (site.text ∈ SiteList.entries list ↔ site.PutBackBy fired)

theorem Decided.apply (decided : p.Decided options site fired ad) (held : site ∈ p.heldSites)
    (settled : p.Settled options final) (makes : p.Makes options f r)
    (fits : r.matchesAd ad = true) (anchored : ad.Anchored) (task : ad.SameTask final) :
    p.Decided options site (fired ++ [r]) (r.apply ad) := by
  obtain ⟨quiet, list, bound, listed⟩ := decided
  obtain ⟨list', bound', rewritten⟩ :=
    makes.mem_entries_iff fits (quiet.unkeyed makes fits) held bound
  refine ⟨quiet.apply settled task anchored makes fits, list', bound', ?_⟩
  rw [rewritten, SiteName.putBackBy_concat, listed]

/-- Until the marker of the site is set and until a correction has put the site in, nothing is said
of the whitelist. -/
def DecidedOnceMarked (p : Policy) (options : CompileOptions) (site : SiteName)
    (fired : List Rule) (ad : JobAd) : Prop :=
  ad.Stores (Marker.heldFrom site) (.bool true) ∨ site.PutBackBy fired →
    p.Decided options site fired ad

theorem Makes.category_eq_of_putsIn (makes : p.Makes options f r) (puts : r.PutsIn site) :
    f.category = .adHoc := by
  rw [← makes.category_eq]
  rcases puts with ⟨rfl, _⟩ | ⟨rfl, _⟩ <;> rfl

/-- A correction comes after all rules for tasks, so none of them matches where it is applied. -/
theorem decided_of_putsIn (held : site ∈ p.heldSites) (settled : p.Settled options final)
    (makes : p.Makes options f r) (matched : (p.compile options).rules.firstMatch? ad = some r)
    (fits : r.matchesAd ad = true) (anchored : ad.Anchored) (task : ad.SameTask final)
    (puts : r.PutsIn site) : p.Decided options site (fired ++ [r]) (r.apply ad) := by
  have quiet : p.Quiet options ad := quiet_of_firstMatch? makes matched (by
    rw [makes.category_eq_of_putsIn puts]
    decide)
  obtain ⟨list, value⟩ := Rule.exists_str_of_putsIn puts fits
  obtain ⟨list', bound', rewritten⟩ := makes.mem_entries_iff fits (quiet.unkeyed makes fits) held
    (anchored.get?_desiredSites value)
  refine ⟨quiet.apply settled task anchored makes fits, list', bound', ?_⟩
  rw [rewritten, SiteName.putBackBy_concat]
  exact iff_of_true (.inl puts) (.inl puts)

theorem decided_of_held {other : SiteName} (first : p.HoldsFirst site)
    (settled : p.Settled options final) (listed : other ∈ p.heldSites)
    (same : Text.sameIgnoringCase other.text site.text = true)
    (matched : (p.compile options).rules.firstMatch? ad = some (holdSiteRule other))
    (fits : (holdSiteRule other).matchesAd ad = true) (anchored : ad.Anchored)
    (task : ad.SameTask final) (absent : ¬ site.PutBackBy fired) :
    p.Decided options site (fired ++ [holdSiteRule other]) ((holdSiteRule other).apply ad) := by
  have makes : p.Makes options .holdSite (holdSiteRule other) := .holdSite listed
  have quiet : p.Quiet options ad := quiet_of_firstMatch? makes matched (by decide)
  obtain ⟨pattern, unmarked⟩ := matchesAd_holdSiteRule_iff.1 fits
  obtain ⟨list, value⟩ := Value.exists_str_of_matchesPattern pattern
  refine ⟨quiet.apply settled task anchored makes fits, _,
    get?_apply_holdSiteRule other (anchored.get?_desiredSites value), ?_⟩
  rw [SiteList.mem_entries_without, SiteName.putBackBy_concat]
  refine iff_of_false ?_ ?_
  · rintro ⟨member, different⟩
    -- Then the rule of the site itself matches, and would have been applied instead.
    have mentioned := SiteName.matchesPattern_iff.2 ⟨first.readable, SiteList.infix_of_mem member⟩
    have spelled := ad.evalAttr_congr (Text.sameIgnoringCase_iff.1
      ((Marker.sameIgnoringCase_heldFrom other site).trans same))
    rw [spelled] at unmarked
    have own : (holdSiteRule site).matchesAd ad = true := by
      rw [matchesAd_holdSiteRule_iff, value]
      exact ⟨mentioned, unmarked⟩
    rw [first.eq_of_firstMatch? listed same matched own] at different
    exact different rfl
  · rintro ((⟨spill, _⟩ | ⟨multicore, _⟩) | ⟨back, _⟩)
    · exact holdSiteRule_ne_t0SpillRule other spill
    · exact holdSiteRule_ne_multicoreRule other multicore
    · exact absent back

theorem DecidedOnceMarked.apply (first : p.HoldsFirst site) (settled : p.Settled options final)
    (makes : p.Makes options f r) (matched : (p.compile options).rules.firstMatch? ad = some r)
    (fits : r.matchesAd ad = true) (anchored : ad.Anchored) (task : ad.SameTask final)
    (once : p.DecidedOnceMarked options site fired ad) :
    p.DecidedOnceMarked options site (fired ++ [r]) (r.apply ad) := by
  have held := first.mem_heldSites
  by_cases before : ad.Stores (Marker.heldFrom site) (.bool true) ∨ site.PutBackBy fired
  · intro _
    exact (once before).apply held settled makes fits anchored task
  obtain ⟨unmarked, absent⟩ := not_or.1 before
  rintro (marked | back)
  · obtain ⟨v, stores⟩ := anchored.markers site
    obtain ⟨v', stores', marks⟩ := makes.marks fits stores
    have truth : v' = .bool true := stores'.evalAttr.symm.trans marked.evalAttr
    cases marks with
    | kept => exact absurd (truth ▸ stores) unmarked
    | @held other listed family own same =>
        subst own
        exact decided_of_held first settled listed same matched fits anchored task absent
    | released _ _ _ _ => cases truth
    | reset _ _ _ => cases truth
  · rcases SiteName.putBackBy_concat.1 back with puts | ⟨earlier, _⟩
    · exact decided_of_putsIn held settled makes matched fits anchored task puts
    · exact absurd earlier absent

/-! ### Whole runs -/

theorem not_putBackBy_of_uncorrected {limit : Nat}
    (uncorrected : options.adhoc = true → site.text ∉ correctedSites) :
    ¬ site.PutBackBy ((p.compile options).rules.firedRules limit ad) := by
  rintro ⟨before, r, after, split, puts, _⟩
  have applied : r ∈ (p.compile options).rules.firedRules limit ad := by simp [split]
  obtain ⟨f, makes⟩ := mem_compile_iff.1 (RuleSet.mem_rules_of_mem_firedRules applied)
  have chosen := makes.adhoc_of_fix (makes.category_eq_of_putsIn puts)
  have read : SiteList.entries "T1_ES_PIC,T2_ES_CIEMAT" = ["T1_ES_PIC", "T2_ES_CIEMAT"] := by
    decide +kernel
  rcases puts with ⟨_, same⟩ | ⟨_, listed⟩
  · exact uncorrected chosen (by simp [correctedSites, same, t0OverflowSite])
  · rw [read] at listed
    exact uncorrected chosen (List.mem_cons_of_mem _ listed)

theorem Decided.listed_iff {list : String} (decided : p.Decided options site fired ad)
    (bound : ad.get? Attribute.desiredSites = some (.lit (.str list))) :
    site.text ∈ SiteList.entries list ↔ site.PutBackBy fired := by
  obtain ⟨_, list', bound', listed⟩ := decided
  rw [bound] at bound'
  cases bound'
  exact listed

theorem decidedOnceMarked_run (first : p.HoldsFirst site) (literal : ad.Literal)
    (unmarked : ∀ b ∈ ad.toList, Marker.isHeldFrom b.name = false) (limit : Nat)
    (settled : p.Settled options ((p.compile options).rules.run limit ad).2) :
    p.DecidedOnceMarked options site ((p.compile options).rules.firedRules limit ad)
      ((p.compile options).rules.run limit ad).2 := by
  apply holds_traced_run_of_literal limit literal
  · intro fired f r later makes matched fits anchored task
    exact DecidedOnceMarked.apply first settled makes matched fits anchored task
  · rintro (marked | ⟨_, _, _, split, _⟩)
    · have free := JobAd.evalAttr_of_unbound (JobAd.get?_eq_none_of_unmarked unmarked site)
      rw [marked.evalAttr] at free
      cases free
    · simp at split

/-- In the last ad of a run that converges, a held site that is the first of its name is an entry
exactly if a correction put it in and no rule after that took it out. So a site that no correction
lists stays out. -/
theorem heldSite_stays_out (p : Policy) (options : CompileOptions) (site : SiteName)
    (first : p.HoldsFirst site) (ad : JobAd) (literal : ad.Literal)
    (unmarked : ∀ b ∈ ad.toList, Marker.isHeldFrom b.name = false) (limit : Nat)
    (converged : ((p.compile options).rules.run limit ad).1.converged = true) (list : String)
    (value : ((p.compile options).rules.run limit ad).2.evalAttr Attribute.desiredSites =
      .str list) :
    (site.text ∈ SiteList.entries list ↔
        site.PutBackBy ((p.compile options).rules.firedRules limit ad)) ∧
      ((options.adhoc = true → site.text ∉ correctedSites) →
        site.text ∉ SiteList.entries list) := by
  have settled := settled_of_converged converged
  have once := decidedOnceMarked_run first literal unmarked limit settled
  have anchored := (anchored_run p options limit literal).1
  have whitelist := anchored.get?_desiredSites value
  have exact : site.text ∈ SiteList.entries list ↔
      site.PutBackBy ((p.compile options).rules.firedRules limit ad) := by
    constructor
    · intro member
      have mentioned := SiteName.matchesPattern_iff.2
        ⟨first.readable, SiteList.infix_of_mem member⟩
      have marked := settled.marked_of_mentioned first.mem_heldSites (value ▸ mentioned)
      obtain ⟨v, stores⟩ := anchored.markers site
      obtain rfl : v = .bool true := stores.evalAttr.symm.trans marked
      exact ((once (.inl stores)).listed_iff whitelist).1 member
    · intro back
      exact ((once (.inr back)).listed_iff whitelist).2 back
  exact ⟨exact, fun uncorrected => mt exact.1 (not_putBackBy_of_uncorrected uncorrected)⟩

def cernHeld : Policy := { empty with holdSite := ["T2_CH_CERN"] }

/-- A job that may run at tier 0 and at the site that it overflows to. -/
def tier0Job : JobAd :=
  (JobAd.empty.assign Attribute.desiredSites (.str "T0_CH_CERN,T2_CH_CERN")).assign
    Marker.hasPrioCorrection (.bool true)

theorem literal_tier0Job : tier0Job.Literal := by
  have read : JobAd.ofJson (.object [(Attribute.desiredSites, .string "T0_CH_CERN,T2_CH_CERN"),
      (Marker.hasPrioCorrection, .bool true)]) = .ok tier0Job := rfl
  exact JobAd.literal_of_ofJson read

/-- Neither sorting nor the fixed corrections are asked for. -/
def withoutFixes : CompileOptions :=
  { CompileOptions.standard with sortWhitelist := false, adhoc := false }

def fnalJob : JobAd :=
  (JobAd.empty.assign Attribute.desiredSites (.str "T1_US_FNAL,T2_CH_CERN")).assign
    Marker.hasPrioCorrection (.bool true)

theorem literal_fnalJob : fnalJob.Literal := by
  have read : JobAd.ofJson (.object [(Attribute.desiredSites, .string "T1_US_FNAL,T2_CH_CERN"),
      (Marker.hasPrioCorrection, .bool true)]) = .ok fnalJob := rfl
  exact JobAd.literal_of_ofJson read

theorem holdsFirst_cern : cernHeld.HoldsFirst cern := by
  unfold HoldsFirst
  decide +kernel

/-- Without the correction for tier 0 the site stays out, and with it where the job is not at tier
0. -/
theorem cern_stays_out :
    cernHeld.HoldsFirst cern ∧
      (∀ b ∈ tier0Job.toList, Marker.isHeldFrom b.name = false) ∧
      ((cernHeld.compile withoutFixes).rules.run 1 tier0Job).1.converged = true ∧
      (∀ list, ((cernHeld.compile withoutFixes).rules.run 1 tier0Job).2.evalAttr
        Attribute.desiredSites = .str list → cern.text ∉ SiteList.entries list) ∧
      ((cernHeld.compile .standard).rules.run 3 fnalJob).1 =
        ⟨["Holding jobs from T2_CH_CERN", "Sort Ads"], true⟩ ∧
        ∀ list, ((cernHeld.compile .standard).rules.run 3 fnalJob).2.evalAttr
          Attribute.desiredSites = .str list → cern.text ∉ SiteList.entries list := by
  have unmarked : ∀ b ∈ tier0Job.toList, Marker.isHeldFrom b.name = false := by
    decide +kernel
  have converged : ((cernHeld.compile withoutFixes).rules.run 1 tier0Job).1.converged = true := by
    decide +kernel
  have trace : ((cernHeld.compile .standard).rules.run 3 fnalJob).1 =
      ⟨["Holding jobs from T2_CH_CERN", "Sort Ads"], true⟩ := by
    decide +kernel
  refine ⟨holdsFirst_cern, unmarked, converged, ?_, trace, ?_⟩
  · intro list value
    exact (heldSite_stays_out cernHeld withoutFixes cern holdsFirst_cern tier0Job literal_tier0Job
      unmarked 1 converged list value).2 (fun fixes => nomatch fixes)
  · intro list value
    refine mt (heldSite_stays_out cernHeld .standard cern holdsFirst_cern fnalJob literal_fnalJob
      (by decide +kernel) 3 (by rw [trace]) list value).1.1 ?_
    rintro ⟨before, r, after, split, puts, _⟩
    have applied : r ∈ (cernHeld.compile .standard).rules.firedRules 3 fnalJob := by simp [split]
    have named : r.name ∈ ["Holding jobs from T2_CH_CERN", "Sort Ads"] := by
      have traced := List.mem_map_of_mem (f := (·.name)) applied
      rwa [← RuleSet.fired_run, trace] at traced
    rcases puts with ⟨rfl, _⟩ | ⟨rfl, _⟩ <;> simp [t0SpillRule, multicoreRule, Rule.make] at named

/-- The correction for tier 0 puts the site back, and its marker keeps it from being taken out. -/
theorem cern_comes_back :
    cern ∈ cernHeld.heldSites ∧ tier0Job.Literal ∧
      (∀ b ∈ tier0Job.toList, Marker.isHeldFrom b.name = false) ∧
      ((cernHeld.compile .standard).rules.run 3 tier0Job).1.converged = true ∧
        ((cernHeld.compile .standard).rules.run 3 tier0Job).2.evalAttr Attribute.desiredSites =
          .str "T0_CH_CERN,T2_CH_CERN" ∧
            cern.text ∈ SiteList.entries "T0_CH_CERN,T2_CH_CERN" := by
  have converged : ((cernHeld.compile .standard).rules.run 3 tier0Job).1.converged = true := by
    decide +kernel
  have value : (((cernHeld.compile .standard).rules.run 3 tier0Job).2.evalAttr
      Attribute.desiredSites).identical (.str "T0_CH_CERN,T2_CH_CERN") = true := by
    decide +kernel
  exact ⟨by decide +kernel, literal_tier0Job, by decide +kernel, converged,
    Value.identical_str_iff.1 value, by decide +kernel⟩

end Policy

end RoutingPolicy

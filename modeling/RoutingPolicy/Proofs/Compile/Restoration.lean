import RoutingPolicy.Proofs.Compile.Interleaving
import RoutingPolicy.Proofs.Compile.Precedence

/-!
# What a release brings back

The whitelist of a held task is put aside, and a release brings it back. Nothing is put aside where
there is no whitelist: such a job is left at the site that no job matches, or with what an earlier
hold has put aside, and no later release finds anything to bring back. A site that was taken out of
a whitelist comes back once, at the end, wherever and however often it stood there before.
-/

namespace RoutingPolicy

set_option autoImplicit false

open Compile Compile.Hold

/-! ### Rules of a category -/

theorem Family.eq_of_category {f own : Family}
    (listed : own ∈ [Family.hold, .release, .holdSite, .releaseSite])
    (same : f.category = own.category) : f = own := by
  simp only [List.mem_cons, List.not_mem_nil, or_false] at listed
  rcases listed with rfl | rfl | rfl | rfl <;> cases f <;> first | rfl | cases same

namespace Policy

variable {p : Policy} {options : CompileOptions} {own : Family} {r : Rule} {site : SiteName}

theorem makes_of_mem_ofCategory
    (listed : own ∈ [Family.hold, .release, .holdSite, .releaseSite])
    (member : r ∈ (p.compile options).rules.ofCategory own.category) : p.Makes options own r := by
  rw [ofCategory_compile] at member
  obtain ⟨f, same, makes⟩ := makes_of_mem_rules member
  obtain rfl := Family.eq_of_category listed same
  exact makes

theorem exists_holdTasksRule (member : r ∈ (p.compile options).rules.ofCategory .hold) :
    ∃ selector, r = holdTasksRule options selector := by
  have makes : p.Makes options .hold r := makes_of_mem_ofCategory (by simp) member
  obtain ⟨selector, _, rfl⟩ := makes.of_hold
  exact ⟨selector, rfl⟩

theorem exists_releaseTasksRule (member : r ∈ (p.compile options).rules.ofCategory .release) :
    ∃ selector, r = releaseTasksRule selector := by
  have makes : p.Makes options .release r := makes_of_mem_ofCategory (by simp) member
  obtain ⟨selector, _, rfl⟩ := makes.of_release
  exact ⟨selector, rfl⟩

theorem eq_holdSiteRule (member : r ∈ (p.compile options).rules.ofCategory .holdSite)
    (named : r.name = "Holding jobs from " ++ site.text) : r = holdSiteRule site := by
  have makes : p.Makes options .holdSite r := makes_of_mem_ofCategory (by simp) member
  obtain ⟨other, _, rfl⟩ := makes.of_holdSite
  rw [siteName_eq_of_append named]

theorem eq_releaseSiteRule (member : r ∈ (p.compile options).rules.ofCategory .releaseSite)
    (named : r.name = "Releasing jobs for " ++ site.text) : r = releaseSiteRule site := by
  have makes : p.Makes options .releaseSite r := makes_of_mem_ofCategory (by simp) member
  obtain ⟨other, _, rfl⟩ := makes.of_releaseSite
  rw [siteName_eq_of_append named]

end Policy

/-! ### Tasks -/

/-- The task of the job is free, and nothing is put aside any more. -/
structure JobAd.TaskReleased (ad : JobAd) : Prop where
  marker : ad.evalAttr Marker.hasBeenSetHeld = .bool false
  cleared : ad.get? Attribute.heldDesiredSites = none

namespace Policy

theorem get?_release_hold (options : CompileOptions) (selector selector' : Expr) (ad : JobAd) :
    ((releaseTasksRule selector').apply ((holdTasksRule options selector).apply ad)).get?
        Attribute.desiredSites =
      ((ad.get? Attribute.desiredSites).or (ad.get? Attribute.heldDesiredSites)).or
        (some (.lit (.str options.holdSite))) := by
  rw [get?_apply_releaseTasksRule, get?_apply_holdTasksRule_held, get?_apply_holdTasksRule]

/-- Holding and releasing bring the whitelist back where there was one. Where there was none, what
an earlier hold had put aside takes its place, and that has to be undefined. -/
theorem release_restores_iff (p q : Policy) (options options' : CompileOptions) (r r' : Rule)
    (held : r ∈ (p.compile options).rules.ofCategory .hold)
    (released : r' ∈ (q.compile options').rules.ofCategory .release)
    (ad : JobAd) (literal : ad.Literal) :
    ((r'.apply (r.apply ad)).evalAttr Attribute.desiredSites =
        ad.evalAttr Attribute.desiredSites ↔
      (ad.get? Attribute.desiredSites).isSome = true ∨
        ad.get? Attribute.heldDesiredSites = some (.lit .undefined)) ∧
      (r'.apply (r.apply ad)).TaskReleased := by
  obtain ⟨selector, rfl⟩ := exists_holdTasksRule held
  obtain ⟨selector', rfl⟩ := exists_releaseTasksRule released
  have final := get?_release_hold options selector selector' ad
  constructor
  · cases bound : ad.get? Attribute.desiredSites with
    | some e =>
        obtain ⟨v, rfl⟩ := literal _ e bound
        rw [bound, Option.some_or, Option.some_or] at final
        rw [JobAd.evalAttr_of_lit final, JobAd.evalAttr_of_lit bound]
        simp
    | none =>
        rw [bound, Option.none_or] at final
        rw [JobAd.evalAttr_of_unbound bound]
        cases saved : ad.get? Attribute.heldDesiredSites with
        | some e =>
            obtain ⟨v, rfl⟩ := literal _ e saved
            rw [saved, Option.some_or] at final
            rw [JobAd.evalAttr_of_lit final]
            simp
        | none =>
            rw [saved, Option.none_or] at final
            rw [JobAd.evalAttr_of_lit final]
            simp
  · constructor
    · exact JobAd.evalAttr_of_lit (Rule.get?_apply_make_flag _ false)
    · exact get?_apply_releaseTasksRule_held selector' _

theorem exists_ofCategory_hold (options : CompileOptions) (task : String) (site : SiteName) :
    ∃ selector, Expr.memberOf? (.plain Attribute.subtaskName) [task] = some selector ∧
      holdTasksRule options selector ∈
        ((HoldStep.holdTask.policy task site).compile options).rules.ofCategory .hold := by
  obtain ⟨selector, selects, single⟩ := HoldStep.exists_rules_holdTask options task site
  refine ⟨selector, selects, ?_⟩
  change _ ∈ HoldStep.holdTask.rules options task site
  rw [single]
  exact List.mem_singleton_self _

theorem exists_ofCategory_release (options : CompileOptions) (task : String)
    (site : SiteName) :
    ∃ selector, releaseTasksRule selector ∈
      ((HoldStep.releaseTask.policy task site).compile options).rules.ofCategory .release := by
  obtain ⟨selector, _, single⟩ := HoldStep.exists_rules_releaseTask options task site
  refine ⟨selector, ?_⟩
  change _ ∈ HoldStep.releaseTask.rules options task site
  rw [single]
  exact List.mem_singleton_self _

theorem release_restores_atTwoSites :
    let holding := (HoldStep.holdTask.policy "/wf/A" cern).compile .standard
    let releasing := (HoldStep.releaseTask.policy "/wf/A" cern).compile .standard
    ∃ r ∈ holding.rules.ofCategory .hold, ∃ r' ∈ releasing.rules.ofCategory .release,
      HoldStep.atTwoSites.Literal ∧
        (r'.apply (r.apply HoldStep.atTwoSites)).evalAttr Attribute.desiredSites =
          .str "T1_US_FNAL,T2_CH_CERN" ∧
        (r'.apply (r.apply HoldStep.atTwoSites)).TaskReleased := by
  intro holding releasing
  obtain ⟨selector, _, held⟩ := exists_ofCategory_hold .standard "/wf/A" cern
  obtain ⟨selector', released⟩ := exists_ofCategory_release .standard "/wf/A" cern
  have literal := HoldStep.unheld_atTwoSites.literal
  obtain ⟨restores, free⟩ := release_restores_iff _ _ .standard .standard _ _ held released
    HoldStep.atTwoSites literal
  have whitelist : HoldStep.atTwoSites.evalAttr Attribute.desiredSites =
      .str "T1_US_FNAL,T2_CH_CERN" := rfl
  refine ⟨_, held, _, released, literal, ?_, free⟩
  exact (restores.2 (.inl rfl)).trans whitelist

def withoutWhitelist : JobAd := JobAd.empty.assign Attribute.subtaskName (.str "/wf/A")

/-- The job is held and released, and no site matches it any more. -/
theorem release_leaves_withoutWhitelist :
    let holding := (HoldStep.holdTask.policy "/wf/A" cern).compile .standard
    let releasing := (HoldStep.releaseTask.policy "/wf/A" cern).compile .standard
    ∃ r ∈ holding.rules.ofCategory .hold, ∃ r' ∈ releasing.rules.ofCategory .release,
      withoutWhitelist.Literal ∧ r.matchesAd withoutWhitelist = true ∧
        withoutWhitelist.evalAttr Attribute.desiredSites = .undefined ∧
        (r'.apply (r.apply withoutWhitelist)).evalAttr Attribute.desiredSites =
          .str "T2_NW_NOWHERE" := by
  intro holding releasing
  obtain ⟨selector, selects, held⟩ := exists_ofCategory_hold .standard "/wf/A" cern
  obtain ⟨selector', released⟩ := exists_ofCategory_release .standard "/wf/A" cern
  have read : JobAd.ofJson (.object [(Attribute.subtaskName, .string "/wf/A")]) =
      .ok withoutWhitelist := rfl
  have named : withoutWhitelist.eval selector = .bool true :=
    (Expr.eval_memberOf?_iff selects).2 ⟨"/wf/A", rfl, "/wf/A", by simp, by decide +kernel⟩
  have unheld : withoutWhitelist.evalAttr Marker.hasBeenSetHeld ≠ .bool true := by
    rw [show withoutWhitelist.evalAttr Marker.hasBeenSetHeld = .undefined from rfl]
    exact nofun
  refine ⟨_, held, _, released, JobAd.literal_of_ofJson read, ?_, rfl, ?_⟩
  · exact matchesAd_holdTasksRule_iff.2 ⟨unheld, named⟩
  · exact JobAd.evalAttr_of_lit (get?_release_hold .standard selector selector' withoutWhitelist)

end Policy

/-! ### Sites -/

/-- The site stands at the end of the whitelist and nowhere else, behind the other entries of the
list. -/
structure SiteName.ComesLast (site : SiteName) (list : String) (ad : JobAd) : Prop where
  whitelist : ∃ list', ad.get? Attribute.desiredSites = some (.lit (.str list')) ∧
    SiteList.entries list' = (SiteList.entries list).filter (· != site.text) ++ [site.text]
  marker : ad.evalAttr (Marker.heldFrom site) = .bool false
  cleared : ad.get? Attribute.releasingDesiredSites = none

namespace Compile.Hold

theorem matchesAd_holdSiteRule_of_str {site : SiteName} {ad : JobAd} {list : String}
    (bound : ad.get? Attribute.desiredSites = some (.lit (.str list)))
    (readable : (Regex.read? site.text).isSome = true) :
    (holdSiteRule site).matchesAd ad = true ↔
      site.text.toList <:+: list.toList ∧ ad.evalAttr (Marker.heldFrom site) ≠ .bool true := by
  rw [matchesAd_holdSiteRule_iff, JobAd.evalAttr_of_lit bound, SiteName.matchesPattern_iff]
  simp [readable]

theorem matchesAd_releaseSiteRule_holdSiteRule (site : SiteName) (ad : JobAd) :
    (releaseSiteRule site).matchesAd ((holdSiteRule site).apply ad) = true := by
  rw [matchesAd_releaseSiteRule_iff]
  exact JobAd.evalAttr_of_lit (Rule.get?_apply_make_flag ad true)

theorem comesLast_releaseSiteRule {site : SiteName} {ad : JobAd} {list : String}
    (bound : ad.get? Attribute.desiredSites = some (.lit (.str list))) :
    site.ComesLast list ((releaseSiteRule site).apply ((holdSiteRule site).apply ad)) where
  whitelist := by
    have out := get?_apply_holdSiteRule site bound
    exact ⟨_, get?_apply_releaseSiteRule site out,
      SiteList.entries_restored_without site.isEntry⟩
  marker := JobAd.evalAttr_of_lit (Rule.get?_apply_make_flag _ false)
  cleared := get?_apply_releaseSiteRule_saved site _

end Compile.Hold

namespace Policy

/-- The rule that holds a site matches where the name of the site stands in the whitelist, provided
that the name is not too long for a pattern. Released again, the site comes last. -/
theorem released_site_comes_last (p q : Policy) (options options' : CompileOptions)
    (site : SiteName) (r r' : Rule)
    (held : r ∈ (p.compile options).rules.ofCategory .holdSite)
    (holding : r.name = "Holding jobs from " ++ site.text)
    (released : r' ∈ (q.compile options').rules.ofCategory .releaseSite)
    (releasing : r'.name = "Releasing jobs for " ++ site.text)
    (ad : JobAd) (list : String)
    (bound : ad.get? Attribute.desiredSites = some (.lit (.str list))) :
    ((Regex.read? site.text).isSome = true → (r.matchesAd ad = true ↔
      site.text.toList <:+: list.toList ∧ ad.evalAttr (Marker.heldFrom site) ≠ .bool true)) ∧
      (r.matchesAd ad = true → r'.matchesAd (r.apply ad) = true ∧
        site.ComesLast list (r'.apply (r.apply ad))) := by
  obtain rfl := eq_holdSiteRule held holding
  obtain rfl := eq_releaseSiteRule released releasing
  constructor
  · exact matchesAd_holdSiteRule_of_str bound
  · intro _
    exact ⟨matchesAd_releaseSiteRule_holdSiteRule site ad, comesLast_releaseSiteRule bound⟩

def fnal : SiteName := ⟨"T1_US_FNAL", by decide +kernel⟩

theorem fnal_comes_last :
    let holding := (HoldStep.holdSite.policy "/wf/A" fnal).compile .standard
    let releasing := (HoldStep.releaseSite.policy "/wf/A" fnal).compile .standard
    ∃ r ∈ holding.rules.ofCategory .holdSite, ∃ r' ∈ releasing.rules.ofCategory .releaseSite,
      r.name = "Holding jobs from " ++ fnal.text ∧ r'.name = "Releasing jobs for " ++ fnal.text ∧
        r.matchesAd HoldStep.atTwoSites = true ∧
        r'.matchesAd (r.apply HoldStep.atTwoSites) = true ∧
        fnal.ComesLast "T1_US_FNAL,T2_CH_CERN" (r'.apply (r.apply HoldStep.atTwoSites)) := by
  intro holding releasing
  have held : holdSiteRule fnal ∈ holding.rules.ofCategory .holdSite := by
    change _ ∈ HoldStep.holdSite.rules .standard "/wf/A" fnal
    rw [HoldStep.rules_holdSite]
    exact List.mem_singleton_self _
  have released : releaseSiteRule fnal ∈ releasing.rules.ofCategory .releaseSite := by
    change _ ∈ HoldStep.releaseSite.rules .standard "/wf/A" fnal
    rw [HoldStep.rules_releaseSite]
    exact List.mem_singleton_self _
  obtain ⟨matching, last⟩ := released_site_comes_last _ _ .standard .standard fnal _ _ held rfl
    released rfl HoldStep.atTwoSites "T1_US_FNAL,T2_CH_CERN" rfl
  have present : HoldStep.atTwoSites.evalAttr (Marker.heldFrom fnal) ≠ .bool true := by
    rw [show HoldStep.atTwoSites.evalAttr (Marker.heldFrom fnal) = .undefined from rfl]
    exact nofun
  have mentioned : fnal.text.toList <:+: "T1_US_FNAL,T2_CH_CERN".toList := by
    decide +kernel
  have fits := (matching (by decide +kernel)).2 ⟨mentioned, present⟩
  exact ⟨_, held, _, released, rfl, rfl, fits, last fits⟩

end Policy

end RoutingPolicy

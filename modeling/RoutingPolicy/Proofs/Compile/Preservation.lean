import RoutingPolicy.Proofs.Compile.Expansion
import RoutingPolicy.Proofs.Compile.Quiet

/-!
# What rules keep of a whitelist

A whitelist is put in the place of another by replacement, by the hold of a task and its release,
and by one of the fixed corrections. All other rules keep the entries that they find, but for the
site that a rule takes out. New entries come from three kinds of rules, and each of them says which:
the sites of the group, the released site, or the site that tier 0 overflows to. The last two are
appended unless they are there, so they never make an entry stand twice.
-/

namespace RoutingPolicy

set_option autoImplicit false

open Compile Compile.Overflow Compile.Hold Compile.Correction

theorem count_addNew {items : List String} {item : String} (few : items.count item ≤ 1) :
    (addNew items item).count item = 1 := by
  rw [addNew]
  split
  · next known =>
      have listed : 0 < items.count item := List.count_pos_iff.2 (List.contains_iff_mem.1 known)
      omega
  · next new =>
      rw [List.contains_iff_mem] at new
      rw [List.count_append, List.count_eq_zero_of_not_mem new, List.count_singleton_self]

namespace Policy

def TakesOut (r : Rule) (entry : String) : Prop :=
  ∃ site : SiteName, r = holdSiteRule site ∧ entry = site.text

def Overflows (p : Policy) (r : Rule) (entry : String) : Prop :=
  ∃ group ∈ p.overflow.groups, ∃ selector, r = masterRule group selector ∧
    entry ∈ group.whitelist.sites

def Appends (r : Rule) (entry : String) : Prop :=
  (∃ site : SiteName, r = releaseSiteRule site ∧ entry = site.text) ∨
    r = t0SpillRule ∧ entry = t0OverflowSite

/-- Of the old list, only what the rule takes out is lost, and in the new list, only what it adds is
new. What it appends stands in the new list once, unless the old one had it more than once. -/
structure Preserves (p : Policy) (r : Rule) (list list' : String) : Prop where
  kept : ∀ entry ∈ SiteList.entries list, ¬ TakesOut r entry → entry ∈ SiteList.entries list'
  out : ∀ entry, TakesOut r entry → entry ∉ SiteList.entries list'
  added : ∀ entry ∈ SiteList.entries list',
    entry ∈ SiteList.entries list ∨ p.Overflows r entry ∨ Appends r entry
  once : ∀ entry, Appends r entry → (SiteList.entries list).count entry ≤ 1 →
    (SiteList.entries list').count entry = 1

variable {p : Policy} {options : CompileOptions} {r : Rule} {ad : JobAd} {list list' : String}

/-! ### Ways to preserve a list -/

theorem category_of_takesOut {entry : String} (takes : TakesOut r entry) :
    r.category = .holdSite := by
  obtain ⟨site, rfl, _⟩ := takes
  rfl

theorem category_of_appends {entry : String} (appends : Appends r entry) :
    r.category = .releaseSite ∨ r.category = .adHoc := by
  rcases appends with ⟨site, rfl, _⟩ | ⟨rfl, _⟩
  · exact .inl rfl
  · exact .inr rfl

theorem preserves_of_same (stays : ∀ entry, ¬ TakesOut r entry) (ends : ∀ entry, ¬ Appends r entry)
    (same : ∀ entry, entry ∈ SiteList.entries list' ↔ entry ∈ SiteList.entries list) :
    p.Preserves r list list' where
  kept entry member _ := (same entry).2 member
  out entry takes := absurd takes (stays entry)
  added entry member := .inl ((same entry).1 member)
  once entry appends := absurd appends (ends entry)

theorem preserves_of_addNew {site : String} (stays : ∀ entry, ¬ TakesOut r entry)
    (appends : ∀ entry, Appends r entry ↔ entry = site)
    (entries : SiteList.entries list' = addNew (SiteList.entries list) site) :
    p.Preserves r list list' where
  kept entry member _ := by
    rw [entries, mem_addNew]
    exact .inl member
  out entry takes := absurd takes (stays entry)
  added entry member := by
    rw [entries, mem_addNew] at member
    rcases member with old | rfl
    · exact .inl old
    · exact .inr (.inr ((appends entry).2 rfl))
  once entry own few := by
    obtain rfl := (appends entry).1 own
    rw [entries]
    exact count_addNew few

/-! ### Rules one by one -/

theorem preserves_masterRule {group : SiteMapGroup} (listed : group ∈ p.overflow.groups)
    (selector : Expr) (list : String) :
    p.Preserves (masterRule group selector) list (group.mapping.expand list) where
  kept entry member _ := by
    rw [Overflow.entries_expand_mapping listed, Overflow.mem_expandedEntries_iff]
    exact .inl member
  out entry takes := nomatch category_of_takesOut takes
  added entry member := by
    rw [Overflow.entries_expand_mapping listed, Overflow.mem_expandedEntries_iff] at member
    rcases member with old | ⟨source, _, sent⟩
    · exact .inl old
    · exact .inr (.inl ⟨group, listed, selector, rfl, List.mem_of_mem_filter sent⟩)
  once entry appends := by
    rcases category_of_appends appends with other | other <;> cases other

theorem preserves_holdSiteRule (site : SiteName) (list : String) :
    p.Preserves (holdSiteRule site) list (SiteList.without list site.text) where
  kept entry member stays := by
    refine SiteList.mem_entries_without.2 ⟨member, ?_⟩
    intro same
    exact stays ⟨site, rfl, same⟩
  out entry takes := by
    obtain ⟨other, same, rfl⟩ := takes
    obtain rfl := holdSiteRule_injective same
    rw [SiteList.mem_entries_without]
    exact fun both => both.2 rfl
  added entry member := .inl (SiteList.mem_entries_without.1 member).1
  once entry appends := by
    rcases category_of_appends appends with other | other <;> cases other

theorem preserves_releaseSiteRule (site : SiteName) (list : String) :
    p.Preserves (releaseSiteRule site) list (SiteList.restored list site.text) := by
  have stays : ∀ entry, ¬ TakesOut (releaseSiteRule site) entry :=
    fun entry takes => nomatch category_of_takesOut takes
  apply preserves_of_addNew stays _ (SiteList.entries_restored site.isEntry)
  intro entry
  constructor
  · intro appends
    rcases appends with ⟨other, same, own⟩ | ⟨same, _⟩
    · rw [own, releaseSiteRule_injective same]
    · cases congrArg Rule.category same
  · exact fun own => .inl ⟨site, rfl, own⟩

theorem preserves_t0SpillRule (list : String) :
    p.Preserves t0SpillRule list (SiteList.adding list t0OverflowSite) := by
  have stays : ∀ entry, ¬ TakesOut t0SpillRule entry :=
    fun entry takes => nomatch category_of_takesOut takes
  apply preserves_of_addNew stays _ (SiteList.entries_adding isEntry_t0OverflowSite)
  intro entry
  constructor
  · intro appends
    rcases appends with ⟨other, same, _⟩ | ⟨_, own⟩
    · cases congrArg Rule.category same
    · exact own
  · exact fun own => .inr ⟨rfl, own⟩

/-! ### All rules -/

theorem Rewrites.preserves (rewrites : p.Rewrites options r list list')
    (unspilled : r ≠ t0SpillRule) (uncorrected : r ≠ multicoreRule) :
    p.Preserves r list list' := by
  have same : (∀ site, r ≠ holdSiteRule site ∧ r ≠ releaseSiteRule site) →
      (∀ entry, entry ∈ SiteList.entries list' ↔ entry ∈ SiteList.entries list) →
      p.Preserves r list list' := by
    intro elsewhere
    apply preserves_of_same
    · intro entry takes
      rcases takes with ⟨site, own, _⟩
      exact (elsewhere site).1 own
    · intro entry appends
      rcases appends with ⟨site, own, _⟩ | ⟨own, _⟩
      · exact (elsewhere site).2 own
      · exact unspilled own
  cases rewrites with
  | kept elsewhere => exact same elsewhere fun entry => Iff.rfl
  | sorted elsewhere => exact same elsewhere fun entry => SiteList.mem_entries_sorted
  | without _ own => exact own ▸ preserves_holdSiteRule _ list
  | restored _ own => exact own ▸ preserves_releaseSiteRule _ list
  | spilled _ own => exact absurd own unspilled
  | corrected _ own => exact absurd own uncorrected

/-- Apart from the rules that put another whitelist in the place of the old one, rules keep what
they find, and say what they add. -/
theorem rules_preserve_whitelists (p : Policy) (options : CompileOptions) (r : Rule)
    (member : r ∈ (p.compile options).rules.rules) (unreplaced : r.isReplacement = false)
    (unheld : r.category ≠ .hold) (unreleased : r.category ≠ .release)
    (uncorrected : r ≠ multicoreRule) (ad : JobAd) (fits : r.matchesAd ad = true) (list : String)
    (bound : ad.get? Attribute.desiredSites = some (.lit (.str list))) :
    ∃ list', (r.apply ad).get? Attribute.desiredSites = some (.lit (.str list')) ∧
      p.Preserves r list list' := by
  obtain ⟨f, makes⟩ := mem_compile_iff.1 member
  by_cases master : f = .master
  · subst master
    obtain ⟨group, listed, selector, rfl⟩ := makes.exists_group
    exact ⟨_, get?_apply_masterRule group selector bound,
      preserves_masterRule listed selector list⟩
  by_cases spill : r = t0SpillRule
  · subst spill
    exact ⟨_, get?_apply_t0SpillRule bound, preserves_t0SpillRule list⟩
  · have unkeyed : f ∉ Family.keyed := by
      simp only [Family.keyed, List.mem_cons, List.not_mem_nil, or_false]
      intro keyed
      rcases keyed with rfl | rfl | rfl | rfl
      · rw [makes.isReplacement_iff.2 rfl] at unreplaced
        cases unreplaced
      · exact master rfl
      · exact unheld makes.category_eq
      · exact unreleased makes.category_eq
    obtain ⟨list', written, rewrites⟩ := makes.rewrites fits unkeyed bound
    exact ⟨list', written, rewrites.preserves spill uncorrected⟩

def cernReleased : Policy := { empty with releaseSite := ["T2_CH_CERN"] }

/-- A job that was kept from the site while its whitelist was nothing but separators. -/
def atNoSite : JobAd :=
  (JobAd.empty.assign Attribute.desiredSites (.str " , ,")).assign (Marker.heldFrom cern)
    (.bool true)

theorem release_preserves_atNoSite :
    releaseSiteRule cern ∈ (cernReleased.compile .standard).rules.rules ∧
      (releaseSiteRule cern).matchesAd atNoSite = true ∧
      ∃ list', ((releaseSiteRule cern).apply atNoSite).get? Attribute.desiredSites =
        some (.lit (.str list')) ∧ cernReleased.Preserves (releaseSiteRule cern) " , ," list' := by
  have listed : cern ∈ validSites cernReleased.releaseSite := by
    decide +kernel
  have member : releaseSiteRule cern ∈ (cernReleased.compile .standard).rules.rules :=
    mem_compile_iff.2 ⟨.releaseSite, .releaseSite listed⟩
  have held : atNoSite.get? (Marker.heldFrom cern) = some (.lit (.bool true)) := by
    rw [atNoSite, JobAd.get?_assign, if_pos rfl]
  have fits : (releaseSiteRule cern).matchesAd atNoSite = true :=
    matchesAd_releaseSiteRule_iff.2 (JobAd.evalAttr_of_lit held)
  refine ⟨member, fits, ?_⟩
  exact rules_preserve_whitelists cernReleased .standard (releaseSiteRule cern) member
    (by decide +kernel) nofun nofun (fun same => nomatch congrArg Rule.category same) atNoSite fits
    " , ," rfl

end Policy

end RoutingPolicy

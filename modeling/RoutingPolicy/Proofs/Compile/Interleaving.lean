import RoutingPolicy.Proofs.Compile.Whitelist

/-!
# Holding a task and a site at the same time

Both ways of holding put the whitelist aside, each in an attribute of its own, and both bring it
back. They know nothing of each other. What the four rules see of a job is a small state: the
whitelist, the one that is put aside with the task, and a flag for each hold. A step of that state
for each rule settles every order of the four. One order loses the site: it is taken out while the
task is free, restored while the task is held, and the whitelist that the task gets back is the one
without it.
-/

namespace RoutingPolicy

set_option autoImplicit false

open Compile Compile.Hold

/-! ### Steps -/

/-- What may be done to a job: its task is held or released, or one of its sites is. -/
inductive HoldStep where
  | holdTask
  | releaseTask
  | holdSite
  | releaseSite
  deriving DecidableEq

namespace HoldStep

variable {options : CompileOptions} {task : String} {site : SiteName} {ad : JobAd}

def policy (task : String) (site : SiteName) : HoldStep → Policy
  | holdTask => { Policy.empty with hold := SortedMap.empty.insert task [] }
  | releaseTask => { Policy.empty with release := SortedSet.ofList [task] }
  | holdSite => { Policy.empty with holdSite := [site.text] }
  | releaseSite => { Policy.empty with releaseSite := [site.text] }

def category : HoldStep → Category
  | holdTask => .hold
  | releaseTask => .release
  | holdSite => .holdSite
  | releaseSite => .releaseSite

/-- The rules of the step among those that its policy is compiled to. -/
def rules (options : CompileOptions) (task : String) (site : SiteName) (step : HoldStep) :
    List Rule :=
  ((step.policy task site).compile options).rules.ofCategory step.category

def take (options : CompileOptions) (task : String) (site : SiteName) (ad : JobAd)
    (step : HoldStep) : JobAd :=
  (step.rules options task site).foldl (fun ad r => if r.matchesAd ad then r.apply ad else ad) ad

theorem exists_rules_holdTask (options : CompileOptions) (task : String) (site : SiteName) :
    ∃ selector, Expr.memberOf? (.plain Attribute.subtaskName) [task] = some selector ∧
      holdTask.rules options task site = [holdTasksRule options selector] := by
  refine ⟨_, rfl, ?_⟩
  change RuleSet.ofCategory _ .hold = _
  rw [Policy.ofCategory_compile]
  exact Policy.rules_compileHold (holdTask.policy task site) options

theorem exists_rules_releaseTask (options : CompileOptions) (task : String) (site : SiteName) :
    ∃ selector, Expr.memberOf? (.plain Attribute.subtaskName) [task] = some selector ∧
      releaseTask.rules options task site = [releaseTasksRule selector] := by
  refine ⟨_, rfl, ?_⟩
  change RuleSet.ofCategory _ .release = _
  rw [Policy.ofCategory_compile]
  exact Policy.rules_taskEntries releaseTasksRule [task]

theorem validSites_text (site : SiteName) : validSites [site.text] = [site] := by
  rw [validSites, List.filterMap_cons, site.trimmedSite?_text]
  rfl

theorem rules_holdSite (options : CompileOptions) (task : String) (site : SiteName) :
    holdSite.rules options task site = [holdSiteRule site] := by
  change RuleSet.ofCategory _ .holdSite = _
  rw [Policy.ofCategory_compile]
  change Compiled.rules (Policy.compileHoldSite _) = _
  rw [Policy.rules_compileHoldSite, Policy.heldSites]
  change List.map holdSiteRule ((validSites [site.text]).filter fun _ => true) = _
  rw [validSites_text]
  rfl

theorem rules_releaseSite (options : CompileOptions) (task : String) (site : SiteName) :
    releaseSite.rules options task site = [releaseSiteRule site] := by
  change RuleSet.ofCategory _ .releaseSite = _
  rw [Policy.ofCategory_compile]
  change Compiled.rules (Policy.compileReleaseSite _) = _
  rw [Policy.rules_compileReleaseSite]
  change List.map releaseSiteRule (validSites [site.text]) = _
  rw [validSites_text]
  rfl

end HoldStep

/-! ### What the steps see of a job -/

/-- The name of the site stands in the whitelist, perhaps as a part of a longer name. -/
def SiteName.isMentioned (site : SiteName) (list : String) : Bool :=
  ((Value.str list).matchesPattern site.text).isTrue

theorem SiteName.isMentioned_iff {site : SiteName} {list : String} :
    site.isMentioned list = true ↔
      (Regex.read? site.text).isSome = true ∧ site.text.toList <:+: list.toList := by
  rw [isMentioned, Value.isTrue_iff, matchesPattern_iff]

structure Parking where
  whitelist : String
  /-- What the whitelist of the task was; it counts only while the task is held. -/
  parked : String
  isHeld : Bool
  isOut : Bool

/-- The job is one of the task, and its attributes are those of the state. -/
structure JobAd.Shows (ad : JobAd) (task : String) (site : SiteName) (s : Parking) : Prop where
  named : ∃ t, ad.Stores Attribute.subtaskName (.str t) ∧ Text.sameIgnoringCase t task = true
  whitelist : ad.get? Attribute.desiredSites = some (.lit (.str s.whitelist))
  parked : s.isHeld = true → ad.get? Attribute.heldDesiredSites = some (.lit (.str s.parked))
  held : ad.Flags Marker.hasBeenSetHeld s.isHeld
  out : ad.Flags (Marker.heldFrom site) s.isOut

namespace HoldStep

variable {options : CompileOptions} {task : String} {site : SiteName} {ad : JobAd} {s : Parking}

def next (options : CompileOptions) (site : SiteName) (s : Parking) : HoldStep → Parking
  | holdTask =>
      if s.isHeld then s
      else { s with whitelist := options.holdSite, parked := s.whitelist, isHeld := true }
  | releaseTask => if s.isHeld then { s with whitelist := s.parked, isHeld := false } else s
  | holdSite =>
      if site.isMentioned s.whitelist && !s.isOut then
        { s with whitelist := SiteList.without s.whitelist site.text, isOut := true }
      else s
  | releaseSite =>
      if s.isOut then
        { s with whitelist := SiteList.restored s.whitelist site.text, isOut := false }
      else s

theorem take_eq {step : HoldStep} {r : Rule} (single : step.rules options task site = [r]) :
    take options task site ad step = if r.matchesAd ad then r.apply ad else ad := by
  rw [take, single]
  rfl

theorem eval_selector {selector : Expr} (shows : ad.Shows task site s)
    (selects : Expr.memberOf? (.plain Attribute.subtaskName) [task] = some selector) :
    ad.eval selector = .bool true := by
  obtain ⟨t, stores, same⟩ := shows.named
  exact (Expr.eval_memberOf?_iff selects).2 ⟨t, stores.evalAttr, task, List.mem_cons_self, same⟩

theorem named_apply {p : Policy} {f : Family} {r : Rule} (makes : p.Makes options f r)
    (fixed : f ≠ .reset) (shows : ad.Shows task site s) :
    ∃ t, (r.apply ad).Stores Attribute.subtaskName (.str t) ∧
      Text.sameIgnoringCase t task = true := by
  obtain ⟨t, stores, same⟩ := shows.named
  exact ⟨t, stores.of_get?_eq (makes.get?_task fixed ad), same⟩

theorem shows_holdTask (shows : ad.Shows task site s) :
    (take options task site ad holdTask).Shows task site (next options site s holdTask) := by
  obtain ⟨selector, selects, single⟩ := exists_rules_holdTask options task site
  have makes : (holdTask.policy task site).Makes options .hold (holdTasksRule options selector) :=
    .hold selects
  have fits : (holdTasksRule options selector).matchesAd ad = !s.isHeld := by
    rw [Bool.eq_iff_iff, matchesAd_holdTasksRule_iff, Ne, shows.held.evalAttr_iff,
      Bool.not_eq_true', Bool.not_eq_true]
    exact and_iff_left (eval_selector shows selects)
  rw [take_eq single, fits, next]
  cases held : s.isHeld with
  | true => exact shows
  | false =>
      have elsewhere : (holdTasksRule options selector).writes (Marker.heldFrom site) = false := by
        apply makes.not_writes_heldFrom (by decide)
        rintro other (⟨_, listed⟩ | ⟨_, listed⟩)
        · exact absurd listed List.not_mem_nil
        · exact absurd listed List.not_mem_nil
      constructor
      · exact named_apply makes (by decide) shows
      · exact get?_apply_holdTasksRule options selector ad
      · intro _
        have saved := get?_apply_holdTasksRule_held options selector ad
        rwa [shows.whitelist, Option.some_or] at saved
      · exact JobAd.flags_of_get? (Rule.get?_apply_make_flag ad true)
      · exact shows.out.of_get?_eq (Rule.get?_apply_of_not_writes ad elsewhere)

theorem shows_releaseTask (shows : ad.Shows task site s) :
    (take options task site ad releaseTask).Shows task site (next options site s releaseTask) := by
  obtain ⟨selector, selects, single⟩ := exists_rules_releaseTask options task site
  have makes : (releaseTask.policy task site).Makes options .release (releaseTasksRule selector) :=
    .release selects
  have fits : (releaseTasksRule selector).matchesAd ad = s.isHeld := by
    rw [Bool.eq_iff_iff, matchesAd_releaseTasksRule_iff, shows.held.evalAttr_iff]
    exact and_iff_left (eval_selector shows selects)
  rw [take_eq single, fits, next]
  cases held : s.isHeld with
  | false => exact shows
  | true =>
      have elsewhere : (releaseTasksRule selector).writes (Marker.heldFrom site) = false := by
        apply makes.not_writes_heldFrom (by decide)
        rintro other (⟨_, listed⟩ | ⟨_, listed⟩)
        · exact absurd listed List.not_mem_nil
        · exact absurd listed List.not_mem_nil
      constructor
      · exact named_apply makes (by decide) shows
      · have restored := get?_apply_releaseTasksRule selector ad
        rwa [shows.parked held, Option.some_or] at restored
      · exact fun free => absurd free Bool.false_ne_true
      · exact JobAd.flags_of_get? (Rule.get?_apply_make_flag ad false)
      · exact shows.out.of_get?_eq (Rule.get?_apply_of_not_writes ad elsewhere)

theorem get?_apply_of_site {p : Policy} {f : Family} {r : Rule} (makes : p.Makes options f r)
    (onSite : f = .holdSite ∨ f = .releaseSite) (ad : JobAd) :
    (r.apply ad).get? Attribute.heldDesiredSites = ad.get? Attribute.heldDesiredSites ∧
      (r.apply ad).get? Marker.hasBeenSetHeld = ad.get? Marker.hasBeenSetHeld := by
  have saved : (Attribute.heldDesiredSites, [Family.hold, .release]) ∈ Family.writers := by
    simp [Family.writers]
  have flag : (Marker.hasBeenSetHeld, [Family.hold, .release]) ∈ Family.writers := by
    simp [Family.writers]
  have fixed : f ≠ .reset := by
    rcases onSite with rfl | rfl <;> decide
  have other : f ∉ [Family.hold, .release] := by
    rcases onSite with rfl | rfl <;> decide
  constructor
  · exact Rule.get?_apply_of_not_writes ad (makes.not_writes fixed saved other)
  · exact Rule.get?_apply_of_not_writes ad (makes.not_writes fixed flag other)

theorem shows_holdSite (shows : ad.Shows task site s) :
    (take options task site ad holdSite).Shows task site (next options site s holdSite) := by
  have listed : site ∈ (holdSite.policy task site).heldSites := by
    change site ∈ (validSites [site.text]).filter fun _ => true
    simp [validSites_text]
  have makes : (holdSite.policy task site).Makes options .holdSite (holdSiteRule site) :=
    .holdSite listed
  have fits : (holdSiteRule site).matchesAd ad = (site.isMentioned s.whitelist && !s.isOut) := by
    rw [Bool.eq_iff_iff, matchesAd_holdSiteRule_iff, Ne, shows.out.evalAttr_iff,
      JobAd.evalAttr_of_lit shows.whitelist, Bool.and_eq_true, Bool.not_eq_true',
      Bool.not_eq_true, SiteName.isMentioned, Value.isTrue_iff]
  rw [take_eq (rules_holdSite options task site), fits, next]
  split
  · obtain ⟨saved, flag⟩ := get?_apply_of_site makes (.inl rfl) ad
    constructor
    · exact named_apply makes (by decide) shows
    · exact get?_apply_holdSiteRule site shows.whitelist
    · exact fun held => saved.trans (shows.parked held)
    · exact shows.held.of_get?_eq flag
    · exact JobAd.flags_of_get? (Rule.get?_apply_make_flag ad true)
  · exact shows

theorem shows_releaseSite (shows : ad.Shows task site s) :
    (take options task site ad releaseSite).Shows task site (next options site s releaseSite) := by
  have listed : site ∈ validSites (releaseSite.policy task site).releaseSite := by
    change site ∈ validSites [site.text]
    simp [validSites_text]
  have makes : (releaseSite.policy task site).Makes options .releaseSite (releaseSiteRule site) :=
    .releaseSite listed
  have fits : (releaseSiteRule site).matchesAd ad = s.isOut := by
    rw [Bool.eq_iff_iff, matchesAd_releaseSiteRule_iff, shows.out.evalAttr_iff]
  rw [take_eq (rules_releaseSite options task site), fits, next]
  split
  · obtain ⟨saved, flag⟩ := get?_apply_of_site makes (.inr rfl) ad
    constructor
    · exact named_apply makes (by decide) shows
    · exact get?_apply_releaseSiteRule site shows.whitelist
    · exact fun held => saved.trans (shows.parked held)
    · exact shows.held.of_get?_eq flag
    · exact JobAd.flags_of_get? (Rule.get?_apply_make_flag ad false)
  · exact shows

theorem shows_take (step : HoldStep) (shows : ad.Shows task site s) :
    (take options task site ad step).Shows task site (next options site s step) := by
  cases step with
  | holdTask => exact shows_holdTask shows
  | releaseTask => exact shows_releaseTask shows
  | holdSite => exact shows_holdSite shows
  | releaseSite => exact shows_releaseSite shows

theorem shows_foldl (order : List HoldStep) (shows : ad.Shows task site s) :
    (order.foldl (take options task site) ad).Shows task site
      (order.foldl (next options site) s) := by
  induction order generalizing ad s with
  | nil => exact shows
  | cons step rest induction => exact induction (shows_take step shows)

/-! ### All orders -/

/-- Each of the four is done once, each hold before its release. -/
structure Ordered (order : List HoldStep) : Prop where
  once : order.Perm [holdTask, releaseTask, holdSite, releaseSite]
  task : order.idxOf holdTask < order.idxOf releaseTask
  site : order.idxOf holdSite < order.idxOf releaseSite

/-- The site is restored where the task is still held, and the task gets back what it had when the
site was out. -/
def losingOrder : List HoldStep := [holdSite, holdTask, releaseSite, releaseTask]

/-- The orders in which nothing is lost: one hold is over before the other begins, or the hold that
began first is the last to end, or the site is restored last. -/
def safeOrders : List (List HoldStep) :=
  [[holdTask, releaseTask, holdSite, releaseSite], [holdSite, releaseSite, holdTask, releaseTask],
    [holdTask, holdSite, releaseSite, releaseTask], [holdTask, holdSite, releaseTask, releaseSite],
    [holdSite, holdTask, releaseTask, releaseSite]]

theorem Ordered.cases {order : List HoldStep} (ordered : Ordered order) :
    order = losingOrder ∨ order ∈ safeOrders := by
  have table : ∀ order ∈ [holdTask, releaseTask, holdSite, releaseSite].permutations',
      order.idxOf holdTask < order.idxOf releaseTask →
        order.idxOf holdSite < order.idxOf releaseSite →
          order = losingOrder ∨ order ∈ safeOrders := by
    decide
  exact table order (List.mem_permutations'.2 ordered.once) ordered.task ordered.site

end HoldStep

/-! ### What becomes of the whitelist -/

/-- An ad of literals, of a job of the task with the site in its whitelist, of which neither is
held. -/
structure JobAd.Unheld (ad : JobAd) (task : String) (site : SiteName) (list : String) : Prop where
  literal : ad.Literal
  named : ∃ t, ad.evalAttr Attribute.subtaskName = .str t ∧ Text.sameIgnoringCase t task = true
  whitelist : ad.evalAttr Attribute.desiredSites = .str list
  listed : site.text ∈ SiteList.entries list
  free : ad.evalAttr Marker.hasBeenSetHeld ≠ .bool true
  present : ad.evalAttr (Marker.heldFrom site) ≠ .bool true

namespace SiteList

variable {list site entry : String}

theorem mem_entries_restored_of_mem (single : IsEntry site) (listed : site ∈ entries list) :
    entry ∈ entries (restored list site) ↔ entry ∈ entries list := by
  rw [mem_entries_restored single, or_iff_left_iff_imp]
  rintro rfl
  exact listed

theorem mem_entries_restored_without (single : IsEntry site) (listed : site ∈ entries list) :
    entry ∈ entries (restored (without list site) site) ↔ entry ∈ entries list := by
  rw [mem_entries_restored single, mem_entries_without]
  constructor
  · rintro (⟨member, _⟩ | rfl)
    · exact member
    · exact listed
  · intro member
    by_cases own : entry = site
    · exact .inr own
    · exact .inl ⟨member, own⟩

end SiteList

namespace HoldStep

variable {options : CompileOptions} {task list : String} {site : SiteName} {ad : JobAd}
  {order : List HoldStep}

def fresh (list : String) : Parking := ⟨list, "", false, false⟩

theorem whitelist_of_unreadable (ordered : Ordered order)
    (unreadable : (Regex.read? site.text).isSome = false) :
    (order.foldl (next options site) (fresh list)).whitelist = list := by
  have silent : ∀ other, site.isMentioned other = false := by
    intro other
    rw [Bool.eq_false_iff, Ne, SiteName.isMentioned_iff, unreadable]
    simp
  rcases ordered.cases with rfl | safe
  · simp [losingOrder, fresh, next, silent]
  · simp only [safeOrders, List.mem_cons, List.not_mem_nil, or_false] at safe
    rcases safe with rfl | rfl | rfl | rfl | rfl <;> simp [fresh, next, silent]

theorem isMentioned_of_mem (readable : (Regex.read? site.text).isSome = true)
    (listed : site.text ∈ SiteList.entries list) : site.isMentioned list = true :=
  SiteName.isMentioned_iff.2 ⟨readable, SiteList.infix_of_mem listed⟩

theorem whitelist_of_losing (mentioned : site.isMentioned list = true) :
    (losingOrder.foldl (next options site) (fresh list)).whitelist =
      SiteList.without list site.text := by
  simp [losingOrder, fresh, next, mentioned]

theorem entries_of_safe (safe : order ∈ safeOrders) (mentioned : site.isMentioned list = true)
    (listed : site.text ∈ SiteList.entries list) (entry : String) :
    entry ∈ SiteList.entries (order.foldl (next options site) (fresh list)).whitelist ↔
      entry ∈ SiteList.entries list := by
  have single := site.isEntry
  simp only [safeOrders, List.mem_cons, List.not_mem_nil, or_false] at safe
  rcases safe with rfl | rfl | rfl | rfl | rfl
  · simpa [fresh, next, mentioned] using SiteList.mem_entries_restored_without single listed
  · simpa [fresh, next, mentioned] using SiteList.mem_entries_restored_without single listed
  · cases parked : site.isMentioned options.holdSite <;> simp [fresh, next, parked]
  · cases parked : site.isMentioned options.holdSite
    · simp [fresh, next, parked]
    · simpa [fresh, next, parked] using SiteList.mem_entries_restored_of_mem single listed
  · simpa [fresh, next, mentioned] using SiteList.mem_entries_restored_without single listed

theorem shows_fresh (unheld : ad.Unheld task site list) : ad.Shows task site (fresh list) where
  named := by
    obtain ⟨t, value, same⟩ := unheld.named
    have stores := unheld.literal.stores Attribute.subtaskName
    rw [value] at stores
    exact ⟨t, stores, same⟩
  whitelist := by
    have stores := unheld.literal.stores Attribute.desiredSites
    rw [unheld.whitelist] at stores
    exact stores.get?_eq (by simp)
  parked := fun held => absurd held Bool.false_ne_true
  held := unheld.literal.not_flags unheld.free
  out := unheld.literal.not_flags unheld.present

/-- In whatever order a task and one of its sites are held and released, the job has the sites that
it had, but for the one order in which the site is restored under the hold of the task. There it is
lost, unless its name is too long for a pattern and the hold never took it out. -/
theorem restores_iff (options : CompileOptions) (task : String) (site : SiteName)
    (order : List HoldStep) (ordered : Ordered order) (ad : JobAd) (list : String)
    (unheld : ad.Unheld task site list) :
    (∃ list', (order.foldl (take options task site) ad).evalAttr Attribute.desiredSites =
        .str list' ∧ ∀ entry, entry ∈ SiteList.entries list' ↔ entry ∈ SiteList.entries list) ↔
      ¬ (order = losingOrder ∧ (Regex.read? site.text).isSome = true) := by
  have final : (order.foldl (take options task site) ad).evalAttr Attribute.desiredSites =
      .str (order.foldl (next options site) (fresh list)).whitelist :=
    JobAd.evalAttr_of_lit (shows_foldl order (shows_fresh unheld)).whitelist
  simp only [final, Value.str.injEq, exists_eq_left']
  cases readable : (Regex.read? site.text).isSome with
  | false => simp [whitelist_of_unreadable ordered readable]
  | true =>
      have listed := unheld.listed
      have mentioned := isMentioned_of_mem readable listed
      rcases ordered.cases with rfl | safe
      · rw [whitelist_of_losing mentioned]
        have lost : site.text ∉ SiteList.entries (SiteList.without list site.text) := by
          intro member
          exact (SiteList.mem_entries_without.1 member).2 rfl
        simp only [and_self, not_true_eq_false, iff_false]
        intro same
        exact lost ((same site.text).2 listed)
      · have other : order ≠ losingOrder := by
          rintro rfl
          exact absurd safe (by decide)
        simp only [other, false_and, not_false_eq_true, iff_true]
        exact entries_of_safe safe mentioned listed

def atTwoSites : JobAd :=
  (JobAd.empty.assign Attribute.subtaskName (.str "/wf/A")).assign Attribute.desiredSites
    (.str "T1_US_FNAL,T2_CH_CERN")

theorem unheld_atTwoSites : atTwoSites.Unheld "/wf/A" cern "T1_US_FNAL,T2_CH_CERN" where
  literal := by
    have read : JobAd.ofJson (.object [(Attribute.subtaskName, .string "/wf/A"),
        (Attribute.desiredSites, .string "T1_US_FNAL,T2_CH_CERN")]) = .ok atTwoSites := rfl
    exact JobAd.literal_of_ofJson read
  named := ⟨"/wf/A", rfl, by decide +kernel⟩
  whitelist := rfl
  listed := by decide +kernel
  free := by
    rw [show atTwoSites.evalAttr Marker.hasBeenSetHeld = .undefined from rfl]
    exact nofun
  present := by
    rw [show atTwoSites.evalAttr (Marker.heldFrom cern) = .undefined from rfl]
    exact nofun

/-- The holds overlap, and the one that began first is over first. -/
theorem restores_of_overlap :
    Ordered [holdTask, holdSite, releaseTask, releaseSite] ∧
      atTwoSites.Unheld "/wf/A" cern "T1_US_FNAL,T2_CH_CERN" ∧
      ∃ list', ([holdTask, holdSite, releaseTask, releaseSite].foldl
          (take .standard "/wf/A" cern) atTwoSites).evalAttr Attribute.desiredSites = .str list' ∧
        ∀ entry, entry ∈ SiteList.entries list' ↔
          entry ∈ SiteList.entries "T1_US_FNAL,T2_CH_CERN" := by
  have ordered : Ordered [holdTask, holdSite, releaseTask, releaseSite] :=
    ⟨by decide, by decide, by decide⟩
  refine ⟨ordered, unheld_atTwoSites, ?_⟩
  apply (restores_iff .standard "/wf/A" cern _ ordered atTwoSites _ unheld_atTwoSites).2
  rintro ⟨losing, _⟩
  cases losing

/-- The site is out before the task is held, and restored while it is. -/
theorem loses_site_of_losingOrder :
    Ordered losingOrder ∧ atTwoSites.Unheld "/wf/A" cern "T1_US_FNAL,T2_CH_CERN" ∧
      (losingOrder.foldl (take .standard "/wf/A" cern) atTwoSites).evalAttr
        Attribute.desiredSites = .str "T1_US_FNAL" ∧
      cern.text ∉ SiteList.entries "T1_US_FNAL" := by
  refine ⟨⟨by decide, by decide, by decide⟩, unheld_atTwoSites, ?_, by decide +kernel⟩
  have mentioned : cern.isMentioned "T1_US_FNAL,T2_CH_CERN" = true := by
    decide +kernel
  have final : (losingOrder.foldl (take .standard "/wf/A" cern) atTwoSites).Shows "/wf/A" cern _ :=
    shows_foldl losingOrder (shows_fresh unheld_atTwoSites)
  rw [JobAd.evalAttr_of_lit final.whitelist, whitelist_of_losing mentioned]
  rfl

end HoldStep

end RoutingPolicy

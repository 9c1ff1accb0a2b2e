import RoutingPolicy.Proofs.Compile.Content

/-!
# Texts that name no site

Wherever a policy lists sites, a text that names none is reported and left out, and nothing else
depends on it. So the policy without these texts is compiled to the same rules, and reports no site.
A list that has become empty stays: a whitelist replaced by no site is still replaced, and one to
which no site is added gives the task to no group.
-/

namespace RoutingPolicy

set_option autoImplicit false

open Text Compile Compile.Overflow Compile.Hold Compile.Ranking Compile.Correction

/-! ### Policies without them -/

/-- The texts that name a site, as they are written. -/
def siteTexts (texts : List String) : List String := texts.filter fun s => (trimmedSite? s).isSome

def TaskModification.onlySites (m : TaskModification) : TaskModification :=
  ⟨m.added.map siteTexts, m.replacement.map siteTexts⟩

def Listing.onlySites (l : Listing) : Listing := ⟨l.workflow, l.task, l.modification.onlySites⟩

namespace Overflow

def onlySites (o : Overflow) : Overflow where
  reversedMapping := o.reversedMapping.filterMap fun destination sources =>
    if (trimmedSite? destination).isSome then some (siteTexts sources) else none
  modifications := o.modifications.mapValues fun tasks =>
    tasks.mapValues TaskModification.onlySites

end Overflow

/-- The policy with every text left out that names no site where one is expected. -/
def Policy.onlySites (p : Policy) : Policy :=
  { p with
    overflow := p.overflow.onlySites
    holdSite := siteTexts p.holdSite
    releaseSite := siteTexts p.releaseSite }

/-! ### The same rules -/

theorem validSites_siteTexts (texts : List String) :
    validSites (siteTexts texts) = validSites texts := by
  rw [validSites, validSites, siteTexts, List.filterMap_filter]
  congr 1
  refine List.filterMap_congr fun s _ => ?_
  cases trimmedSite? s <;> rfl

theorem invalidSites_siteTexts (texts : List String) : invalidSites (siteTexts texts) = [] := by
  rw [invalidSites, siteTexts, List.filter_filter, List.filter_eq_nil_iff]
  intro s _
  cases trimmedSite? s <;> simp

theorem mem_siteTexts {texts : List String} {s : String} :
    s ∈ siteTexts texts ↔ s ∈ texts ∧ (trimmedSite? s).isSome = true :=
  List.mem_filter

namespace Overflow

theorem listings_onlySites (o : Overflow) :
    o.onlySites.modifications.listings = o.modifications.listings.map Listing.onlySites := by
  simp only [Modifications.listings, onlySites, SortedMap.entries_mapValues, List.flatMap_map,
    List.map_flatMap, List.map_map]
  rfl

theorem contents_onlySites (o : Overflow) : o.onlySites.contents = o.contents := by
  rw [contents, contents, listings_onlySites, List.map_map]
  refine List.map_congr_left fun l _ => ?_
  simp only [Function.comp_apply, Listing.content, Listing.onlySites, TaskModification.onlySites,
    Option.map_map, Function.comp_def, validSites_siteTexts]

theorem checkedMapping_onlySites (o : Overflow) :
    checkedMapping o.onlySites.reversedMapping = checkedMapping o.reversedMapping := by
  rw [checkedMapping, checkedMapping, onlySites, SortedMap.filterMap, List.filterMap_filterMap]
  congr 1
  refine List.filterMap_congr fun entry _ => ?_
  rcases entry with ⟨destination, sources⟩
  cases named : trimmedSite? destination with
  | none => simp [ checkedEntry?, named]
  | some site => simp [ checkedEntry?, named, validSites_nonblank, validSites_siteTexts]

end Overflow

namespace Policy

theorem contains_trim_siteTexts (texts : List String) (site : SiteName) :
    ((siteTexts texts).map trim).contains site.text = (texts.map trim).contains site.text := by
  rw [Bool.eq_iff_iff, List.contains_iff_mem, List.contains_iff_mem, List.mem_map, List.mem_map]
  constructor
  · intro listed
    rcases listed with ⟨s, kept, trimmed⟩
    exact ⟨s, (mem_siteTexts.1 kept).1, trimmed⟩
  · intro listed
    rcases listed with ⟨s, member, trimmed⟩
    have named : trimmedSite? s = some site := trimmedSite?_eq_some_iff.2 trimmed
    exact ⟨s, mem_siteTexts.2 ⟨member, by rw [named]; rfl⟩, trimmed⟩

theorem content_onlySites (p : Policy) : p.onlySites.content = p.content := by
  have destinations : p.onlySites.overflow.destinations = p.overflow.destinations :=
    congrArg DestinationMap.invert p.overflow.checkedMapping_onlySites
  have heldSites : p.onlySites.heldSites = p.heldSites := by
    simp only [Policy.heldSites, onlySites, validSites_siteTexts, contains_trim_siteTexts]
  have releasedSites : validSites p.onlySites.releaseSite = validSites p.releaseSite :=
    validSites_siteTexts p.releaseSite
  have listings : p.onlySites.overflow.contents = p.overflow.contents :=
    p.overflow.contents_onlySites
  rw [content, destinations, heldSites, releasedSites, listings]
  rfl

end Policy

/-! ### No reports -/

def SkipReason.isInvalidSite : SkipReason → Bool
  | invalidSite _ => true
  | _ => false

namespace Compiled

def reportsSite : Compiled → Bool
  | rule _ => false
  | skip reason => reason.isInvalidSite

def Silent (entries : List Compiled) : Prop := ∀ entry ∈ entries, entry.reportsSite = false

namespace Silent

variable {Item : Type} {entry : Compiled} {first second : List Compiled}

theorem nil : Silent [] := fun _ listed => absurd listed List.not_mem_nil

theorem singleton (silent : entry.reportsSite = false) : Silent [entry] := by
  intro other listed
  rw [List.mem_singleton.1 listed]
  exact silent

theorem append (front : Silent first) (back : Silent second) : Silent (first ++ second) :=
  fun entry listed => (List.mem_append.1 listed).elim (front entry) (back entry)

theorem map {entryOf : Item → Compiled} (items : List Item)
    (silent : ∀ item, (entryOf item).reportsSite = false) : Silent (items.map entryOf) := by
  intro entry listed
  rcases List.mem_map.1 listed with ⟨item, _, rfl⟩
  exact silent item

theorem flatMap {entriesOf : Item → List Compiled} {items : List Item}
    (silent : ∀ item ∈ items, Silent (entriesOf item)) : Silent (items.flatMap entriesOf) := by
  intro entry listed
  rcases List.mem_flatMap.1 listed with ⟨item, member, listed⟩
  exact silent item member entry listed

theorem skips {reasons : List SkipReason}
    (silent : ∀ reason ∈ reasons, reason.isInvalidSite = false) : Silent (skips reasons) := by
  intro entry listed
  rcases List.mem_map.1 listed with ⟨reason, member, rfl⟩
  exact silent reason member

end Silent

end Compiled

open Compiled (Silent)

def Listing.NamesSites (l : Listing) : Prop :=
  (∀ sites ∈ l.modification.replacement, invalidSites (nonblank sites) = []) ∧
    ∀ sites ∈ l.modification.added, invalidSites (nonblank sites) = []

theorem invalidSites_nonblank_siteTexts (texts : List String) :
    invalidSites (nonblank (siteTexts texts)) = [] := by
  rw [invalidSites, List.filter_eq_nil_iff]
  intro s kept
  rcases List.mem_map.1 (List.mem_filter.1 kept).1 with ⟨text, listed, rfl⟩
  have named := (mem_siteTexts.1 listed).2
  rw [trimmedSite?_trim, ← Option.not_isSome, named]
  exact Bool.false_ne_true

theorem Listing.namesSites_onlySites (l : Listing) : l.onlySites.NamesSites := by
  constructor
  · intro sites replaces
    rcases Option.map_eq_some_iff.1 replaces with ⟨texts, _, rfl⟩
    exact invalidSites_nonblank_siteTexts texts
  · intro sites adds
    rcases Option.map_eq_some_iff.1 adds with ⟨texts, _, rfl⟩
    exact invalidSites_nonblank_siteTexts texts

namespace Overflow

variable {l : Listing}

theorem silent_replacementEntries (listings : List Listing) (valid : l.NamesSites) :
    Silent (replacementEntries listings l) := by
  rw [replacementEntries]
  split
  · next sites _ replaces _ =>
      split
      · rw [replacement, invalidSiteReasons, valid.1 sites replaces]
        exact .singleton (by split <;> rfl)
      · exact .singleton rfl
  · exact .nil

theorem isInvalidSite_addListing (replaced : SortedMap String String) (groups : WhitelistGroups)
    (valid : l.NamesSites) :
    ∀ reason ∈ (addListing replaced groups l).2, reason.isInvalidSite = false := by
  rw [addListing]
  split
  · next sites _ adds =>
      have checked : invalidSiteReasons (nonblank sites) = [] := by
        rw [invalidSiteReasons, valid.2 sites adds, List.map_nil]
      simp only [checked, List.nil_append]
      split
      · exact List.forall_mem_singleton.2 rfl
      · split
        · exact List.forall_mem_nil _
        · exact List.forall_mem_singleton.2 rfl
        · exact List.forall_mem_singleton.2 rfl
  · exact List.forall_mem_nil _

theorem isInvalidSite_addListings (replaced : SortedMap String String) (groups : WhitelistGroups)
    {rest : List Listing} (valid : ∀ l ∈ rest, l.NamesSites) :
    ∀ reason ∈ (addListings replaced groups rest).2, reason.isInvalidSite = false := by
  induction rest generalizing groups with
  | nil => exact List.forall_mem_nil _
  | cons l rest induction =>
      have own := isInvalidSite_addListing replaced groups (valid l List.mem_cons_self)
      have others := induction (addListing replaced groups l).1 fun l member =>
        valid l (List.mem_cons_of_mem _ member)
      exact List.forall_mem_append.2 ⟨own, others⟩

theorem reportsSite_groupEntry (group : SiteMapGroup) : (groupEntry group).reportsSite = false := by
  rw [groupEntry]
  split
  · rfl
  · cases Expr.memberOf? (.plain Attribute.subtaskName) group.tasks.toList <;> rfl

theorem mappingReasons_onlySites (o : Overflow) :
    (o.onlySites.reversedMapping.entries.flatMap fun (destination, sources) =>
      mappingReasons destination sources) = [] := by
  rw [List.flatMap_eq_nil_iff]
  intro entry listed
  rcases entry with ⟨destination, sources⟩
  rcases List.mem_filterMap.1 listed with ⟨⟨original, texts⟩, _, kept⟩
  cases named : trimmedSite? original with
  | none => simp [named] at kept
  | some site =>
      simp only [named, Option.isSome_some, if_true, Option.map_some, Option.some.injEq,
        Prod.mk.injEq] at kept
      rcases kept with ⟨rfl, rfl⟩
      simp only [mappingReasons, named, invalidSiteReasons, invalidSites_nonblank_siteTexts,
        List.map_nil]

theorem silent_compile_onlySites (o : Overflow) : Silent o.onlySites.compile := by
  have valid : ∀ l ∈ o.onlySites.modifications.listings, l.NamesSites := by
    intro l listed
    rw [listings_onlySites] at listed
    rcases List.mem_map.1 listed with ⟨original, _, rfl⟩
    exact original.namesSites_onlySites
  have replacements := Silent.flatMap fun l member =>
    silent_replacementEntries o.onlySites.modifications.listings (valid l member)
  have additions := Silent.skips (isInvalidSite_addListings o.onlySites.replaced
    .empty valid)
  have mapping : Silent (Compiled.skips []) := .skips (List.forall_mem_nil _)
  rw [← o.mappingReasons_onlySites] at mapping
  rw [← replaceListings_eq] at replacements
  exact ((replacements.append additions).append mapping).append (.map _ reportsSite_groupEntry)

end Overflow

/-! ### Other sections -/

theorem Tuning.silent_compile (t : Tuning) (thresholds : ThresholdMap) :
    Silent (t.compile thresholds) := by
  rw [compile_eq]
  refine .flatMap fun (threshold, tasks) _ => .append (.skips ?_) ?_
  · intro reason listed
    rcases List.mem_filterMap.1 listed with ⟨task, _, made⟩
    rw [duplicate?] at made
    split at made
    · split at made
      · cases made
      · rw [← Option.some.inj made]
        rfl
    · cases made
  · split <;> exact .singleton rfl

theorem ResizePolicy.silent_compile (resizing : SortedMap String ResizePolicy) :
    Silent (compile resizing) := by
  refine .map _ fun (policy, tasks) => ?_
  simp only
  split <;> rfl

namespace Compile

theorem Hold.silent_taskEntries (rule : Expr → Rule) (tasks : List String) :
    Silent (taskEntries rule tasks) := by
  rw [taskEntries]
  split
  · exact .singleton rfl
  · exact .nil

theorem Ranking.silent_raise (options : CompileOptions) (requests : List String) :
    Silent (raise options requests) := by
  rw [raise]
  split
  · exact .singleton rfl
  · exact .nil

theorem Ranking.silent_drain (options : CompileOptions) (agents : List String) :
    Silent (drain options agents) := by
  refine .map _ fun agent => ?_
  rw [drainEntry]
  split <;> rfl

theorem Correction.silent_sort (options : CompileOptions) : Silent (sort options) := by
  rw [sort]
  split
  · exact .singleton rfl
  · exact .nil

theorem Correction.silent_adhoc (options : CompileOptions) : Silent (adhoc options) := by
  rw [adhoc]
  split
  · exact .map _ fun _ => rfl
  · exact .nil

end Compile

namespace Policy

theorem silent_compileHoldSite_onlySites (p : Policy) : Silent p.onlySites.compileHoldSite := by
  have checked : invalidSiteReasons p.onlySites.holdSite = [] :=
    congrArg (List.map _) (invalidSites_siteTexts p.holdSite)
  rw [compileHoldSite, checked]
  refine .append .nil (.map _ fun site => ?_)
  rw [holdSiteEntry]
  split <;> rfl

theorem silent_compileReleaseSite_onlySites (p : Policy) :
    Silent p.onlySites.compileReleaseSite := by
  have checked : invalidSiteReasons p.onlySites.releaseSite = [] :=
    congrArg (List.map _) (invalidSites_siteTexts p.releaseSite)
  rw [compileReleaseSite, checked]
  exact .append .nil (.map _ fun _ => rfl)

theorem silent_entries_onlySites (p : Policy) (options : CompileOptions) (category : Category) :
    Silent (p.onlySites.entries options category) := by
  cases category with
  | overflow => exact p.overflow.silent_compile_onlySites
  | sortWhitelist => exact silent_sort options
  | priorityCorrection => exact .singleton rfl
  | memory | time | slope | read => exact Tuning.silent_compile _ _
  | resize => exact ResizePolicy.silent_compile _
  | hold => exact .append (.map _ fun _ => rfl) (silent_taskEntries _ _)
  | release => exact silent_taskEntries _ _
  | holdSite => exact p.silent_compileHoldSite_onlySites
  | releaseSite => exact p.silent_compileReleaseSite_onlySites
  | priorityRaise => exact silent_raise options _
  | drain => exact silent_drain options _
  | adHoc => exact silent_adhoc options
  | reset => exact .map _ fun _ => rfl

/-- Texts that name no site change nothing but the reports: without them the rules are the same, and
no text is reported. -/
theorem compile_onlySites (p : Policy) (options : CompileOptions) :
    (p.onlySites.compile options).rules = (p.compile options).rules ∧
      ∀ skipped ∈ (p.onlySites.compile options).skipped, ∀ site,
        skipped.reason ≠ .invalidSite site := by
  constructor
  · exact rules_compile_congr p.content_onlySites options
  · intro skipped reported site same
    simp only [compile, Compiled.reasons, List.mem_flatMap, List.mem_map,
      List.mem_filterMap] at reported
    rcases reported with ⟨category, _, reason, ⟨entry, listed, skips⟩, rfl⟩
    have silent := p.silent_entries_onlySites options category entry listed
    cases entry with
    | rule r => cases skips
    | skip own =>
        obtain rfl := Option.some.inj skips
        have invalid : own = .invalidSite site := same
        rw [invalid] at silent
        cases silent

end Policy

end RoutingPolicy

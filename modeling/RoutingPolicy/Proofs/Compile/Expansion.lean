import RoutingPolicy.Proofs.Ad.SiteMapping
import RoutingPolicy.Proofs.Compile.Exclusion
import RoutingPolicy.Proofs.Compile.OneShot
import RoutingPolicy.Proofs.Compile.OverflowContent
import RoutingPolicy.Proofs.Compile.Whitelist
import RoutingPolicy.Proofs.Site.Canonical

/-!
# What overflow makes of a whitelist

What a policy says on overflow is checked, inverted, narrowed down to the whitelist of a group and
written into the rule of the group as a record, which is read again when the rule acts on a job. For
every source the record gives the destinations that the policy lists for it and the group allows, in
ascending order, and nothing for a text that names no site. A whitelist that is no text is left
alone.
-/

namespace RoutingPolicy

set_option autoImplicit false

open Compile Compile.Overflow
open DestinationMap (Takes)

/-! ### Whitelists of groups -/

namespace Whitelist

def OfSites (whitelist : Whitelist) : Prop :=
  ∃ listed : List SiteName, canonical? (listed.map (·.text)) = some whitelist

variable {whitelist : Whitelist}

theorem OfSites.ascending (ofSites : whitelist.OfSites) : Ascending whitelist.sites := by
  obtain ⟨listed, made⟩ := ofSites
  rw [sites_of_sites made]
  exact (SortedSet.ofList _).ascending

theorem OfSites.exists_site (ofSites : whitelist.OfSites) {destination : String}
    (member : destination ∈ whitelist.sites) : ∃ site : SiteName, site.text = destination := by
  obtain ⟨listed, made⟩ := ofSites
  rw [sites_of_sites made] at member
  have named : destination ∈ listed.map (·.text) := SortedSet.mem_ofList.1 member
  obtain ⟨site, _, text⟩ := List.mem_map.1 named
  exact ⟨site, text⟩

end Whitelist

def WhitelistGroups.OfSites (groups : WhitelistGroups) : Prop :=
  ∀ whitelist tasks, groups.groups.get? whitelist = some tasks → whitelist.OfSites

theorem WhitelistGroups.OfSites.claim {groups : WhitelistGroups} (ofSites : groups.OfSites)
    (task : String) {added : Option Whitelist} (made : ∀ whitelist ∈ added, whitelist.OfSites) :
    (groups.claim task added).OfSites := by
  cases added with
  | none => exact ofSites
  | some own =>
      simp only [WhitelistGroups.claim]
      split
      · exact ofSites
      · intro whitelist tasks found
        rw [SortedMap.get?_alter] at found
        split at found
        · next same => exact same ▸ made own rfl
        · exact ofSites whitelist tasks found

theorem ListingContent.ofSites_enter {groups : WhitelistGroups} (ofSites : groups.OfSites)
    (contents : List ListingContent) {c : ListingContent}
    (made : ∀ added ∈ c.added, ∀ whitelist ∈ added, whitelist.OfSites) :
    (c.enter contents groups).OfSites := by
  rw [enter]
  split
  · next added _ own =>
      split
      · exact ofSites
      · exact ofSites.claim c.task (made added own)
  · exact ofSites

namespace Overflow

variable {o : Overflow} {group : SiteMapGroup} {source destination : String}

theorem ofSites_claims (o : Overflow) : o.claims.OfSites := by
  have made : ∀ c ∈ o.contents, ∀ added ∈ c.added, ∀ whitelist ∈ added, whitelist.OfSites := by
    intro c listed added own whitelist some
    obtain ⟨l, _, rfl⟩ := List.mem_map.1 listed
    obtain ⟨texts, _, rfl⟩ := Option.map_eq_some_iff.1 own
    exact ⟨validSites texts, some⟩
  rw [claims_eq]
  apply List.foldlRecOn
  · intro whitelist tasks found
    cases found
  · intro groups ofSites c listed
    exact ListingContent.ofSites_enter ofSites o.contents (made c listed)

theorem ofSites_of_mem_groups (listed : group ∈ o.groups) : group.whitelist.OfSites :=
  o.ofSites_claims _ _ (mem_groups_iff.1 listed).1

/-! ### Destinations within a whitelist -/

/-- The policy lists the source under the destination. Blanks around the two do not count. -/
def takes (o : Overflow) (destination source : String) : Bool :=
  o.reversedMapping.entries.any fun (key, sources) =>
    Text.trim key == destination && sources.any fun text => Text.trim text == source

/-- The sites of a whitelist that take jobs from a source, which has to be a site, too. -/
def destinationsWithin (o : Overflow) (whitelist : Whitelist) (source : String) : List String :=
  whitelist.sites.filter fun destination =>
    SiteName.isValid source && o.takes destination source

theorem takes_iff : o.takes destination source = true ↔ ∃ entry ∈ o.reversedMapping.entries,
    Text.trim entry.1 = destination ∧ ∃ text ∈ entry.2, Text.trim text = source := by
  simp [takes]

theorem sends_destinations_iff : o.destinations.Sends source destination ↔
    SiteName.isValid destination = true ∧ SiteName.isValid source = true ∧
      o.takes destination source = true := by
  rw [destinations, DestinationMap.sends_invert, takes_checkedMapping, takes_iff,
    SiteName.isValid_iff, SiteName.isValid_iff]
  simp only [trimmedSite?_eq_some_iff, mem_validSites_iff]
  constructor
  · intro taken
    rcases taken with ⟨entry, listed, target, key, rfl, site, ⟨text, member, trimmed⟩, rfl⟩
    exact ⟨⟨target, rfl⟩, ⟨site, rfl⟩, entry, listed, key, text, member, trimmed⟩
  · intro named
    rcases named with ⟨⟨target, rfl⟩, ⟨site, rfl⟩, entry, listed, key, text, member, trimmed⟩
    exact ⟨entry, listed, target, key, rfl, site, ⟨text, member, trimmed⟩, rfl⟩

theorem getD_get?_mapping (listed : group ∈ o.groups) (source : String) :
    (group.mapping.get? source).getD [] = o.destinationsWithin group.whitelist source := by
  have ofSites := ofSites_of_mem_groups listed
  have ascending : Ascending (o.destinationsWithin group.whitelist source) :=
    ofSites.ascending.filter _
  rw [(mem_groups_iff.1 listed).2]
  apply SortedSet.eq_of_mem_iff (DestinationMap.ascending_getD_get?_scoped _ _ _) ascending
  intro destination
  have valid : destination ∈ group.whitelist.sites → SiteName.isValid destination = true :=
    fun member => SiteName.isValid_iff.2 (ofSites.exists_site member)
  rw [DestinationMap.mem_getD_get?_scoped, Whitelist.contains_iff, sends_destinations_iff,
    destinationsWithin, List.mem_filter, Bool.and_eq_true]
  tauto

theorem isEntry_of_destinationsWithin {whitelist : Whitelist} (ofSites : whitelist.OfSites)
    (member : destination ∈ o.destinationsWithin whitelist source) :
    SiteList.IsEntry destination := by
  obtain ⟨site, rfl⟩ := ofSites.exists_site (List.mem_of_mem_filter member)
  exact site.isEntry

end Overflow

/-! ### Expansion by a rule -/

/-- What takes the place of a whitelist: only texts can be expanded. -/
def ScopedMapping.expanded (mapping : ScopedMapping) : Value → Value
  | .str list => .str (mapping.expand list)
  | v => v

theorem JobAd.eval_expanded (ad : JobAd) (mapping : ScopedMapping) :
    ad.eval (expandedExpr mapping) =
      mapping.expanded (ad.evalAttr Attribute.preDesiredSites) := by
  let mapped := Func.siteMapping.apply
    [ad.evalAttr Attribute.preDesiredSites, .ofMapping mapping]
  have decided : ad.eval (.compare .distinct
      (.call .siteMapping [.named Attribute.preDesiredSites, .lit (.ofMapping mapping)])
      (.lit .error)) = .bool !(mapped.identical .error) := rfl
  have value : ad.eval
      (.call .siteMapping [.named Attribute.preDesiredSites, .lit (.ofMapping mapping)]) =
        mapped := rfl
  rw [expandedExpr, eval_cond_of_bool decided, value, eval_named]
  cases read : ad.evalAttr Attribute.preDesiredSites with
  | str list =>
      have expanded : mapped = .str (mapping.expand list) := by
        simp only [mapped, read]
        exact Value.mapSites_ofMapping mapping list
      rw [expanded]
      rfl
  | _ => simp [mapped, read, Func.apply, Value.strict?, Value.ofMapping, Value.isError,
      Value.isUndefined, Value.identical, ScopedMapping.expanded]

/-! ### Rules -/

namespace Compile.Overflow

variable {ad : JobAd} {v : Value}

theorem not_desiredSites_of_ranks : ∀ m ∈ [Mutation.set Attribute.rank rankExpr],
    Text.sameIgnoringCase m.target Attribute.desiredSites = false := by
  intro m member
  obtain rfl := List.mem_singleton.1 member
  decide +kernel

theorem get?_apply_masterRule (group : SiteMapGroup) (selector : Expr)
    (bound : ad.get? Attribute.desiredSites = some (.lit v)) :
    ((masterRule group selector).apply ad).get? Attribute.desiredSites =
      some (.lit (group.mapping.expanded v)) := by
  have unmarked : ((masterRule group selector).markers.any fun m =>
      Text.sameIgnoringCase m.flag Attribute.desiredSites) = false :=
    Rule.any_markers_make_eq_false (by decide +kernel) (by decide +kernel)
  obtain ⟨copied, read, written⟩ :=
    Rule.get?_apply_recomputed rfl not_desiredSites_of_ranks unmarked bound
  rw [written, copied.eval_expanded, read]

theorem get?_apply_masterRule_saved (group : SiteMapGroup) (selector : Expr) {e : Expr}
    (bound : ad.get? Attribute.desiredSites = some e) :
    ((masterRule group selector).apply ad).get? Attribute.preDesiredSites = some e := by
  have apart : ∀ name ∈ [Attribute.desiredSites, Attribute.rank, Marker.hasBeenRoutedOverflow,
      Marker.hasBeenRouted], Text.sameIgnoringCase name Attribute.preDesiredSites = false := by
    decide +kernel
  have later : ∀ m ∈ [Mutation.evalSet Attribute.desiredSites (expandedExpr group.mapping),
      .set Attribute.rank rankExpr],
      Text.sameIgnoringCase m.target Attribute.preDesiredSites = false := by
    intro m member
    simp only [List.mem_cons, List.not_mem_nil, or_false] at member
    rcases member with rfl | rfl
    · exact apart Attribute.desiredSites (by simp)
    · exact apart Attribute.rank (by simp)
  have unmarked : ((masterRule group selector).markers.any fun m =>
      Text.sameIgnoringCase m.flag Attribute.preDesiredSites) = false :=
    Rule.any_markers_make_eq_false (apart _ (by simp)) (apart _ (by simp))
  exact Rule.get?_apply_copied rfl later unmarked bound

-- The two ends are variables here: the letters of the name itself would be compared one by one.
theorem eq_of_append {front text text' back : String}
    (same : front ++ text ++ back = front ++ text' ++ back) : text = text' := by
  rwa [String.append_left_inj, String.append_right_inj] at same

theorem masterName_injective : Function.Injective masterName := by
  intro whitelist whitelist' same
  have texts : whitelist.text = whitelist'.text := eq_of_append same
  cases whitelist
  exact congrArg Whitelist.mk texts

end Compile.Overflow

/-- The entries that overflow leaves: those of the list, each where it stands first, and behind them
for every entry in turn the sites of the whitelist that take jobs from it, unless they are there. -/
def Overflow.expandedEntries (o : Overflow) (whitelist : Whitelist) (list : String) : List String :=
  let sources := addAllNew [] (SiteList.entries list)
  addAllNew sources (sources.flatMap (o.destinationsWithin whitelist))

theorem Overflow.mem_expandedEntries_iff {o : Overflow} {whitelist : Whitelist}
    {list entry : String} :
    entry ∈ o.expandedEntries whitelist list ↔ entry ∈ SiteList.entries list ∨
      ∃ source ∈ SiteList.entries list, entry ∈ o.destinationsWithin whitelist source := by
  simp [expandedEntries, mem_addAllNew]

theorem Overflow.entries_expand_mapping {o : Overflow} {group : SiteMapGroup}
    (listed : group ∈ o.groups) (list : String) :
    SiteList.entries (group.mapping.expand list) = o.expandedEntries group.whitelist list := by
  have destinations : (fun source => (group.mapping.get? source).getD []) =
      o.destinationsWithin group.whitelist := funext (getD_get?_mapping listed)
  rw [ScopedMapping.expand, destinations]
  apply SiteList.entries_expand
  intro source _ destination member
  exact isEntry_of_destinationsWithin (ofSites_of_mem_groups listed) member

namespace Policy

variable {p : Policy} {options : CompileOptions} {r : Rule}

theorem Makes.exists_group (makes : p.Makes options .master r) :
    ∃ group ∈ p.overflow.groups, ∃ selector, r = masterRule group selector := by
  cases makes with
  | master listed _ _ => exact ⟨_, listed, _, rfl⟩
  | tuning tuned _ _ => simp [tunings] at tuned
  | fix _ listed => simp [fixes] at listed

theorem Makes.eq_master {f : Family} {whitelist : Whitelist} (makes : p.Makes options f r)
    (overflow : r.category = .overflow) (named : r.name = masterName whitelist) : f = .master := by
  apply makes.isMaster_iff.1
  rw [Rule.isMaster, overflow, named]
  exact masterName_master whitelist.text

/-- What the rule for a whitelist makes of the whitelist of a job. -/
structure Expands (p : Policy) (r : Rule) (whitelist : Whitelist) (ad : JobAd) (v : Value) :
    Prop where
  saved : (r.apply ad).get? Attribute.preDesiredSites = some (.lit v)
  ascending : Ascending whitelist.sites
  text : ∀ list, v = .str list →
    ∃ list', (r.apply ad).get? Attribute.desiredSites = some (.lit (.str list')) ∧
      SiteList.entries list' = p.overflow.expandedEntries whitelist list
  other : (∀ list, v ≠ .str list) →
    (r.apply ad).get? Attribute.desiredSites = some (.lit v)

theorem masterRule_expands (p : Policy) (options : CompileOptions) (r : Rule)
    (whitelist : Whitelist) (member : r ∈ (p.compile options).rules.rules)
    (overflow : r.category = .overflow) (named : r.name = masterName whitelist)
    (ad : JobAd) (v : Value) (bound : ad.get? Attribute.desiredSites = some (.lit v)) :
    p.Expands r whitelist ad v := by
  obtain ⟨f, makes⟩ := mem_compile_iff.1 member
  obtain rfl := makes.eq_master overflow named
  obtain ⟨group, listed, selector, rfl⟩ := makes.exists_group
  obtain rfl : group.whitelist = whitelist := masterName_injective named
  have written := get?_apply_masterRule group selector bound
  constructor
  · exact get?_apply_masterRule_saved group selector bound
  · exact (Overflow.ofSites_of_mem_groups listed).ascending
  · intro list isText
    subst isText
    exact ⟨_, written, Overflow.entries_expand_mapping listed list⟩
  · intro noText
    rw [written]
    cases v with
    | str list => exact absurd rfl (noText list)
    | _ => rfl

def overflowsToCern : Policy :=
  let modifications := SortedMap.empty.insert "wf"
    (SortedMap.empty.insert "/wf/A" ⟨some ["T2_CH_CERN", "T2_DE_DESY"], none⟩)
  { empty with overflow :=
      ⟨SortedMap.empty.insert " T2_CH_CERN" ["T1_US_FNAL ", "anywhere"], modifications⟩ }

theorem masterRule_expands_of_two_sites :
    let list := "T1_US_FNAL, anywhere, T1_US_FNAL"
    let whitelist : Whitelist := ⟨"T2_CH_CERN,T2_DE_DESY"⟩
    let ad := JobAd.empty.assign Attribute.desiredSites (.str list)
    (∃ r ∈ (overflowsToCern.compile .standard).rules.rules, r.category = .overflow ∧
      r.name = masterName whitelist ∧ overflowsToCern.Expands r whitelist ad (.str list)) ∧
        overflowsToCern.overflow.expandedEntries whitelist list =
          ["T1_US_FNAL", "anywhere", "T2_CH_CERN"] := by
  intro list whitelist ad
  have compiled : ((overflowsToCern.compile .standard).rules.rules.any fun r =>
      r.category == .overflow && r.name == masterName whitelist) = true := by
    decide +kernel
  obtain ⟨r, member, both⟩ := List.any_eq_true.1 compiled
  rw [Bool.and_eq_true, beq_iff_eq, beq_iff_eq] at both
  have bound : ad.get? Attribute.desiredSites = some (.lit (.str list)) := by
    rw [JobAd.get?_assign, if_pos rfl]
  refine ⟨⟨r, member, both.1, both.2, ?_⟩, by decide +kernel⟩
  exact masterRule_expands overflowsToCern .standard r whitelist member both.1 both.2 ad _ bound

end Policy

end RoutingPolicy

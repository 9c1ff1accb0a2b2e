import RoutingPolicy.Proofs.Compile.Expansion
import RoutingPolicy.Proofs.Compile.Partition

/-!
# Partitions of tasks by whitelist

What becomes of a task in the section on overflow is decided by what the workflows say of it, taken
in ascending order. The first of them that replaces the whitelist decides on a replacement, and
takes the task out of all groups even if it names no site. Otherwise the first addition that names a
site puts the task into the group of the sites that it names. A group makes a rule if the mapping
leads into it.
-/

namespace RoutingPolicy

set_option autoImplicit false

open Compile Compile.Overflow

/-! ### What is said of one task -/

def namedSites (texts : List String) : List SiteName := (texts.filterMap trimmedSite?).eraseDups

def siteSet? (texts : List String) : Option (SortedSet String) :=
  if namedSites texts = [] then none else some (.ofList ((namedSites texts).map (·.text)))

namespace Modifications

/-- What the workflows say of a task, in ascending order of the workflows. -/
def ofTask (m : Modifications) (task : String) : List TaskModification :=
  m.entries.filterMap fun (_, tasks) => tasks.get? task

/-- The sites that replace the whitelist of a task, if a workflow replaces it; there may be none. -/
def replacement? (m : Modifications) (task : String) : Option (List SiteName) :=
  ((m.ofTask task).findSome? (·.replacement)).map namedSites

/-- The sites of the first addition for a task that names any. -/
def addition? (m : Modifications) (task : String) : Option (SortedSet String) :=
  (m.ofTask task).findSome? fun modification => modification.added.bind siteSet?

end Modifications

namespace SortedMap

variable {Key Item : Type} [Ord Key] [Std.TransOrd Key] [Std.LawfulEqOrd Key] [DecidableEq Key]

theorem filter_entries {entries : List (Key × Item)} (ascending : AscendingKeys entries)
    (k : Key) :
    entries.filter (fun entry => entry.1 == k) = ((lookup k entries).map (k, ·)).toList := by
  induction entries with
  | nil => rfl
  | cons entry rest induction =>
      obtain ⟨key, item⟩ := entry
      have later := induction ascending.of_cons
      by_cases own : key = k
      · subst own
        have missing : lookup key rest = none :=
          lookup_eq_none_of_lt fun e listed => List.rel_of_pairwise_cons ascending listed
        rw [List.filter_cons_of_pos (by simp), later, missing]
        simp [lookup]
      · have other : compare k key ≠ .eq :=
          fun same => own (Std.LawfulEqOrd.eq_of_compare same).symm
        rw [List.filter_cons_of_neg (by simpa using own), later, lookup, if_neg other]

end SortedMap

namespace Modifications

variable {m : Modifications} {task : String}

theorem map_filter_listings (m : Modifications) (task : String) :
    (m.listings.filter fun l => l.task == task).map (·.modification) = m.ofTask task := by
  rw [listings, List.filter_flatMap, List.map_flatMap, ofTask, List.filterMap_eq_flatMap_toList]
  congr 1
  funext entry
  obtain ⟨workflow, tasks⟩ := entry
  have own := SortedMap.filter_entries tasks.ascending task
  rw [List.filter_map, List.map_map]
  change (tasks.entries.filter fun entry => entry.1 == task).map (·.2) = (tasks.get? task).toList
  rw [own, SortedMap.get?]
  cases SortedMap.lookup task tasks.entries <;> rfl

theorem eq_of_mem_listings {l l' : Listing} (listed : l ∈ m.listings) (listed' : l' ∈ m.listings)
    (workflow : l.workflow = l'.workflow) (task : l.task = l'.task) : l = l' := by
  by_contra different
  have symmetric : Std.Symm fun l l' : Listing => l.workflow = l'.workflow → l.task ≠ l'.task :=
    ⟨fun _ _ apart same => (apart same.symm).symm⟩
  exact m.pairwise_listings.forall listed listed' different workflow task

end Modifications

/-! ### Replacements -/

namespace Modifications

variable {m : Modifications} {task : String}

def firstReplacing? (m : Modifications) (task : String) : Option Listing :=
  m.listings.find? fun l => l.task == task && l.modification.replacement.isSome

theorem replacedBy?_eq : replacedBy? m.listings task = (m.firstReplacing? task).map (·.workflow) :=
  rfl

theorem of_firstReplacing? {l : Listing} (first : m.firstReplacing? task = some l) :
    l ∈ m.listings ∧ l.task = task ∧ ∃ texts, l.modification.replacement = some texts := by
  have found := List.find?_some first
  rw [Bool.and_eq_true, beq_iff_eq, Option.isSome_iff_exists] at found
  exact ⟨List.mem_of_find?_eq_some first, found⟩

theorem firstReplacing?_eq_some_iff {l : Listing} (listed : l ∈ m.listings) :
    m.firstReplacing? l.task = some l ↔ replacedBy? m.listings l.task = some l.workflow := by
  rw [replacedBy?_eq]
  constructor
  · intro first
    rw [first]
    rfl
  · intro first
    obtain ⟨l', found, workflow⟩ := Option.map_eq_some_iff.1 first
    obtain ⟨listed', task, _⟩ := of_firstReplacing? found
    rw [found, eq_of_mem_listings listed' listed workflow task]

theorem replacement?_eq (m : Modifications) (task : String) : m.replacement? task =
    (m.firstReplacing? task).bind fun l => l.modification.replacement.map namedSites := by
  have found (listings : List Listing) :
      (listings.find? fun l => l.task == task && l.modification.replacement.isSome).bind
          (fun l => l.modification.replacement.map namedSites) =
        (((listings.filter fun l => l.task == task).map (·.modification)).findSome?
          (·.replacement)).map namedSites := by
    induction listings with
    | nil => rfl
    | cons l rest induction =>
        by_cases own : l.task = task
        · cases replaced : l.modification.replacement <;> simp [own, replaced, induction]
        · simp [own, induction]
  rw [replacement?, firstReplacing?, found, map_filter_listings]

theorem isSome_replacement? (m : Modifications) (task : String) :
    (m.replacement? task).isSome = (replacedBy? m.listings task).isSome := by
  rw [replacement?_eq, replacedBy?_eq, Option.isSome_map]
  cases first : m.firstReplacing? task with
  | none => rfl
  | some l =>
      obtain ⟨_, _, texts, replaces⟩ := of_firstReplacing? first
      simp [replaces]

end Modifications

namespace Overflow

variable {o : Overflow}

/-- The task of a listing with the sites that replace its whitelist, as far as there is a rule for
them. -/
def replaced? (o : Overflow) (l : Listing) : Option (String × List SiteName) :=
  (l.modification.replacement.map namedSites).bind fun sites =>
    if replacedBy? o.modifications.listings l.task = some l.workflow ∧ sites ≠ [] then
      some (l.task, sites)
    else none

theorem replacementRule?_eq_map (o : Overflow) (l : Listing) :
    o.replacementRule? l =
      (o.replaced? l).map fun entry => replacementRule entry.1 entry.2 := by
  rw [replacementRule?, replaced?]
  cases l.modification.replacement with
  | none => rfl
  | some texts =>
      have named : validSites (Text.nonblank texts) = namedSites texts := by
        rw [validSites_nonblank, validSites_eq_eraseDups, namedSites]
      simp only [named, Option.map_some, Option.bind_some]
      split <;> rfl

theorem replaced?_eq_some_iff {l : Listing} {task : String} {sites : List SiteName}
    (listed : l ∈ o.modifications.listings) : o.replaced? l = some (task, sites) ↔
      o.modifications.firstReplacing? task = some l ∧
        l.modification.replacement.map namedSites = some sites ∧ sites ≠ [] := by
  rw [replaced?, Option.bind_eq_some_iff]
  constructor
  · rintro ⟨sites', named, made⟩
    split at made
    · next first =>
        cases made
        exact ⟨(Modifications.firstReplacing?_eq_some_iff listed).2 first.1, named, first.2⟩
    · cases made
  · rintro ⟨first, named, some⟩
    obtain ⟨_, rfl, _⟩ := Modifications.of_firstReplacing? first
    have own := (Modifications.firstReplacing?_eq_some_iff listed).1 first
    exact ⟨sites, named, if_pos ⟨own, some⟩⟩

def replacements (o : Overflow) : List (String × List SiteName) :=
  o.modifications.listings.filterMap o.replaced?

theorem mem_replacements_iff {task : String} {sites : List SiteName} :
    (task, sites) ∈ o.replacements ↔
      o.modifications.replacement? task = some sites ∧ sites ≠ [] := by
  rw [replacements, List.mem_filterMap, Modifications.replacement?_eq, Option.bind_eq_some_iff]
  constructor
  · rintro ⟨l, listed, own⟩
    obtain ⟨first, named, some⟩ := (replaced?_eq_some_iff listed).1 own
    exact ⟨⟨l, first, named⟩, some⟩
  · rintro ⟨⟨l, first, named⟩, some⟩
    have listed := (Modifications.of_firstReplacing? first).1
    exact ⟨l, listed, (replaced?_eq_some_iff listed).2 ⟨first, named, some⟩⟩

theorem nodup_replacements (o : Overflow) : (o.replacements.map (·.1)).Nodup := by
  rw [List.Nodup, List.pairwise_map, replacements, List.pairwise_filterMap]
  apply o.modifications.pairwise_listings.imp_of_mem
  rintro l l' listed listed' apart ⟨task, sites⟩ own ⟨task', sites'⟩ own' same
  obtain ⟨first, -⟩ := (replaced?_eq_some_iff listed).1 own
  obtain ⟨first', -⟩ := (replaced?_eq_some_iff listed').1 own'
  obtain rfl : task = task' := same
  rw [first] at first'
  obtain rfl := Option.some.inj first'
  exact apart rfl rfl

end Overflow

/-! ### Claims -/

namespace Whitelist

def ofSites (sites : SortedSet String) : Whitelist := ⟨SiteList.join sites.toList⟩

theorem canonical?_validSites (texts : List String) :
    canonical? ((validSites texts).map (·.text)) = (siteSet? texts).map ofSites := by
  have named : validSites texts = namedSites texts := validSites_eq_eraseDups texts
  rw [canonical?, nonblank_text, named, siteSet?]
  cases sites : namedSites texts with
  | nil => rfl
  | cons first rest =>
      have member : first.text ∈ SortedSet.ofList ((first :: rest).map (·.text)) :=
        SortedSet.mem_ofList.2 List.mem_cons_self
      have filled : (SortedSet.ofList ((first :: rest).map (·.text))).isEmpty = false :=
        List.isEmpty_eq_false_iff.2 (List.ne_nil_of_mem member)
      simp only [filled, reduceCtorEq, if_false, Bool.false_eq_true]
      rfl

theorem sites_ofSites {texts : List String} {sites : SortedSet String}
    (named : siteSet? texts = some sites) : (ofSites sites).sites = sites.toList := by
  have made := canonical?_validSites texts
  rw [named, Option.map_some] at made
  rw [siteSet?] at named
  split at named
  · cases named
  · rw [sites_of_sites made, ← Option.some.inj named, validSites_eq_eraseDups, namedSites]

end Whitelist

namespace ListingContent

/-- The whitelist under which a modification enters its task. -/
def offer? (contents : List ListingContent) (c : ListingContent) : Option Whitelist :=
  match c.replacement, c.added with
  | none, some whitelist => if (replacedBy? contents c.task).isSome then none else whitelist
  | _, _ => none

theorem enter_eq_claim (contents : List ListingContent) (groups : WhitelistGroups)
    (c : ListingContent) : c.enter contents groups = groups.claim c.task (c.offer? contents) := by
  rw [enter, offer?]
  cases c.replacement <;> cases c.added <;> try rfl
  dsimp only
  split <;> rfl

theorem get?_claimed_foldl (contents listed : List ListingContent) (groups : WhitelistGroups)
    (task : String) :
    (listed.foldl (fun groups c => c.enter contents groups) groups).claimed.get? task =
      (groups.claimed.get? task).or
        ((listed.filter fun c => c.task == task).findSome? (offer? contents)) := by
  induction listed generalizing groups with
  | nil => simp
  | cons c rest induction =>
      rw [List.foldl_cons, induction, enter_eq_claim, WhitelistGroups.get?_claimed_claim,
        Option.or_assoc]
      by_cases own : c.task = task
      · simp only [own, if_true, beq_self_eq_true, List.filter_cons_of_pos, List.findSome?_cons]
        cases c.offer? contents <;> rfl
      · simp [own]

end ListingContent

namespace Overflow

variable {o : Overflow} {task : String}

theorem inhabited_claims (o : Overflow) : o.claims.Inhabited := by
  rw [claims_eq]
  apply List.foldlRecOn
  · intro whitelist tasks found
    cases found
  · intro groups inhabited c _
    rw [ListingContent.enter_eq_claim]
    exact inhabited.claim _ _

theorem offer?_content {l : Listing} (listed : l ∈ o.modifications.listings)
    (free : o.modifications.replacement? l.task = none) :
    l.content.offer? o.contents =
      (l.modification.added.bind siteSet?).map Whitelist.ofSites := by
  have unreplaced : replacedBy? o.modifications.listings l.task = none := by
    rw [← Option.isNone_iff_eq_none, ← Option.not_isSome,
      ← Modifications.isSome_replacement?, free]
    rfl
  have kept : l.modification.replacement = none := by
    rw [replacedBy?, Option.map_eq_none_iff, List.find?_eq_none] at unreplaced
    simpa using unreplaced l listed
  rw [ListingContent.offer?, contents, ← replacedBy?_eq_content]
  simp only [Listing.content, kept, unreplaced, Option.map_none, Option.isSome_none]
  cases l.modification.added with
  | none => rfl
  | some texts => exact Whitelist.canonical?_validSites texts

theorem get?_claimed_claims (o : Overflow) (task : String) : o.claims.claimed.get? task =
    if (o.modifications.replacement? task).isSome then none
    else (o.modifications.addition? task).map Whitelist.ofSites := by
  have claimed := ListingContent.get?_claimed_foldl o.contents o.contents .empty task
  rw [← claims_eq] at claimed
  rw [claimed, WhitelistGroups.empty, SortedMap.get?_empty, Option.none_or]
  split
  · next replaced =>
      -- No modification of a replaced task offers anything, also if it is not the replacing one.
      rw [List.findSome?_eq_none_iff]
      intro c member
      rw [List.mem_filter, beq_iff_eq] at member
      rw [Modifications.isSome_replacement?, replacedBy?_eq_content, ← contents, ← member.2]
        at replaced
      rw [ListingContent.offer?]
      split
      · exact if_pos replaced
      · rfl
  · next free =>
      have free : o.modifications.replacement? task = none := by simpa using free
      rw [Modifications.addition?, ← Modifications.map_filter_listings, List.findSome?_map,
        List.map_findSome?, contents, List.filter_map, List.findSome?_map,
        ← List.head?_filterMap, ← List.head?_filterMap]
      congr 1
      apply List.filterMap_congr
      intro l member
      obtain ⟨listed, own⟩ := List.mem_filter.1 member
      obtain rfl : l.task = task := beq_iff_eq.1 own
      exact offer?_content listed free

def InGroup (o : Overflow) (whitelist : Whitelist) (task : String) : Prop :=
  ∃ tasks, o.claims.groups.get? whitelist = some tasks ∧ task ∈ tasks

theorem inGroup_iff {whitelist : Whitelist} : o.InGroup whitelist task ↔
    o.modifications.replacement? task = none ∧
      (o.modifications.addition? task).map Whitelist.ofSites = some whitelist := by
  rw [InGroup, ← o.consistent_claims task whitelist, get?_claimed_claims]
  cases o.modifications.replacement? task <;> simp

end Overflow

/-! ### Rules -/

theorem DestinationMap.isEmpty_scoped_eq_false_iff {m : DestinationMap} {whitelist : Whitelist} :
    (m.scoped whitelist).isEmpty = false ↔
      ∃ source destination, whitelist.contains destination = true ∧ m.Sends source destination := by
  simp only [← mem_getD_get?_scoped]
  rw [ScopedMapping.isEmpty, SortedMap.isEmpty, List.isEmpty_eq_false_iff_exists_mem]
  constructor
  · rintro ⟨⟨source, kept⟩, entry⟩
    have found := SortedMap.get?_eq_some_iff.2 entry
    have filled : kept ≠ [] := by
      rw [DestinationMap.scoped, SortedMap.get?_filterMap, Option.bind_eq_some_iff] at found
      obtain ⟨known, -, made⟩ := found
      dsimp only at made
      split at made
      · cases made
      · next filled => simpa [← Option.some.inj made] using filled
    obtain ⟨destination, member⟩ := List.exists_mem_of_ne_nil kept filled
    exact ⟨source, destination, by rwa [ScopedMapping.get?, found]⟩
  · rintro ⟨source, destination, member⟩
    cases found : (m.scoped whitelist).get? source with
    | none =>
        rw [found] at member
        cases member
    | some kept => exact ⟨(source, kept), SortedMap.get?_eq_some_iff.1 found⟩

namespace SiteList

theorem join_eq_intercalate {listed : List String} (filled : ∀ entry ∈ listed, entry ≠ "") :
    join listed = ",".intercalate listed := by
  rw [← String.toList_inj, toList_join filled, String.toList_intercalate]
  rfl

end SiteList

namespace Overflow

variable {o : Overflow} {whitelist : Whitelist} {tasks : SortedSet String}

/-- A destination of the mapping is in the whitelist and takes jobs from a site. -/
def reaches (o : Overflow) (whitelist : Whitelist) : Bool :=
  o.reversedMapping.entries.any fun (destination, sources) =>
    whitelist.contains (Text.trim destination) &&
      sources.any fun source => (trimmedSite? source).isSome

theorem reaches_iff : o.reaches whitelist = true ↔ ∃ entry ∈ o.reversedMapping.entries,
    whitelist.contains (Text.trim entry.1) = true ∧
      ∃ text ∈ entry.2, ∃ site : SiteName, Text.trim text = site.text := by
  simp only [reaches, List.any_eq_true, Bool.and_eq_true, Option.isSome_iff_exists,
    trimmedSite?_eq_some_iff]

theorem isEmpty_scoped_eq_not_reaches (ofSites : whitelist.OfSites) :
    (o.destinations.scoped whitelist).isEmpty = !o.reaches whitelist := by
  rw [← Bool.not_inj_iff, Bool.not_not, Bool.eq_iff_iff, Bool.not_eq_true',
    DestinationMap.isEmpty_scoped_eq_false_iff, reaches_iff]
  simp only [sends_destinations_iff, takes_iff, SiteName.isValid_iff]
  constructor
  · rintro ⟨source, destination, within, -, ⟨site, rfl⟩, entry, listed, rfl, text, member, same⟩
    exact ⟨entry, listed, within, text, member, site, same⟩
  · rintro ⟨entry, listed, within, text, member, site, same⟩
    have named := ofSites.exists_site (Whitelist.contains_iff.1 within)
    exact ⟨site.text, _, within, named, ⟨site, rfl⟩, entry, listed, rfl, text, member, same⟩

theorem masterRule?_of_get?_claims (found : o.claims.groups.get? whitelist = some tasks) :
    masterRule? ⟨whitelist, tasks, o.destinations.scoped whitelist⟩ =
      if o.reaches whitelist then
        some (masterRule ⟨whitelist, tasks, o.destinations.scoped whitelist⟩ (taskSelector tasks))
      else none := by
  have filled : tasks.toList ≠ [] := by
    intro empty
    apply o.inhabited_claims whitelist tasks found
    exact SortedSet.ext fun task => by simp [Membership.mem, empty, SortedSet.empty]
  have selects : SortedSet.ofList tasks.toList = tasks :=
    SortedSet.ext fun _ => SortedSet.mem_ofList
  rw [masterRule?, memberOf?_eq_taskSelector filled, selects,
    isEmpty_scoped_eq_not_reaches (o.ofSites_claims whitelist tasks found)]
  cases o.reaches whitelist <;> rfl

/-- Replacements come first, then the groups that the mapping reaches. -/
theorem rules_compile_eq_map (o : Overflow) : Compiled.rules o.compile =
    (o.replacements.map fun entry => replacementRule entry.1 entry.2) ++
      (o.claims.groups.entries.filter fun group => o.reaches group.1).map fun group =>
        masterRule ⟨group.1, group.2, o.destinations.scoped group.1⟩ (taskSelector group.2) := by
  rw [rules_compile, replacements, List.map_filterMap]
  congr 1
  · exact List.filterMap_congr fun l _ => o.replacementRule?_eq_map l
  · rw [groups, WhitelistGroups.withMapping, List.filterMap_map, ← List.filterMap_eq_map,
      List.filterMap_filter]
    refine List.filterMap_congr fun group entry => ?_
    exact masterRule?_of_get?_claims (SortedMap.get?_eq_some_iff.2 entry)

theorem get?_apply_replacementRule (task : String) (sites : List SiteName) (ad : JobAd) :
    ((replacementRule task sites).apply ad).get? Attribute.desiredSites =
      some (.lit (.str (",".intercalate (sites.map (·.text))))) := by
  have unmarked : ((replacementRule task sites).markers.any fun m =>
      Text.sameIgnoringCase m.flag Attribute.desiredSites) = false :=
    Rule.any_markers_make_eq_false (by decide +kernel) (by decide +kernel)
  have filled : ∀ text ∈ sites.map (·.text), text ≠ "" := by
    intro text listed
    obtain ⟨site, -, rfl⟩ := List.mem_map.1 listed
    exact site.isEntry.1
  rw [Rule.get?_apply_last ad (List.nil_append _).symm not_desiredSites_of_ranks unmarked,
    Mutation.apply, JobAd.get?_assign, if_pos rfl, ← SiteList.join_eq_intercalate filled]
  rfl

end Overflow

/-! ### The partition -/

theorem isSome_siteSet?_iff {texts : List String} :
    (siteSet? texts).isSome = true ↔ ∃ text ∈ texts, ∃ site, trimmedSite? text = some site := by
  have named : namedSites texts = [] ↔ texts.filterMap trimmedSite? = [] := by
    simp only [namedSites, List.eq_nil_iff_forall_not_mem, List.mem_eraseDups]
  rw [siteSet?]
  split
  · next empty =>
      rw [named, List.filterMap_eq_nil_iff] at empty
      simpa using fun text listed site own => by simp [empty text listed] at own
  · next filled =>
      rw [named, List.filterMap_eq_nil_iff] at filled
      simpa [Option.ne_none_iff_exists'] using filled

namespace Overflow

variable {o : Overflow} {task task' : String}

theorem exists_siteSet?_of_addition? {sites : SortedSet String}
    (added : o.modifications.addition? task = some sites) :
    ∃ texts, siteSet? texts = some sites := by
  obtain ⟨modification, -, own⟩ := List.exists_of_findSome?_eq_some added
  obtain ⟨texts, -, named⟩ := Option.bind_eq_some_iff.1 own
  exact ⟨texts, named⟩

theorem eq_of_ofSites_eq {sites sites' : SortedSet String}
    (added : o.modifications.addition? task = some sites)
    (added' : o.modifications.addition? task' = some sites')
    (same : Whitelist.ofSites sites = Whitelist.ofSites sites') : sites = sites' := by
  obtain ⟨texts, named⟩ := exists_siteSet?_of_addition? added
  obtain ⟨texts', named'⟩ := exists_siteSet?_of_addition? added'
  have listed := Whitelist.sites_ofSites named
  rw [same, Whitelist.sites_ofSites named'] at listed
  exact SortedSet.ext fun site => by simp only [Membership.mem, listed]

theorem exists_addition?_iff : (∃ sites, o.modifications.addition? task = some sites) ↔
    ∃ modification ∈ o.modifications.ofTask task, ∃ texts, modification.added = some texts ∧
      ∃ text ∈ texts, ∃ site, trimmedSite? text = some site := by
  rw [← Option.isSome_iff_exists, Modifications.addition?, List.findSome?_isSome_iff]
  refine exists_congr fun modification => and_congr_right fun _ => ?_
  simp only [← isSome_siteSet?_iff]
  cases modification.added <;> simp

/-- How tasks are divided by what the workflows say of them. -/
structure Partitions (o : Overflow) : Prop where
  /-- The tasks that are replaced by at least one site have a rule each, and so have the groups that
  the mapping reaches, in ascending order of their whitelists. -/
  rules : ∃ replaced : List (String × List SiteName), (replaced.map (·.1)).Nodup ∧
    (∀ task sites, (task, sites) ∈ replaced ↔
      o.modifications.replacement? task = some sites ∧ sites ≠ []) ∧
    Compiled.rules o.compile =
      (replaced.map fun (task, sites) => replacementRule task sites) ++
        (o.claims.groups.entries.filter fun (whitelist, _) => o.reaches whitelist).map
          fun (whitelist, tasks) =>
            masterRule ⟨whitelist, tasks, o.destinations.scoped whitelist⟩ (taskSelector tasks)
  writes (task : String) (sites : List SiteName) (ad : JobAd) :
    ((replacementRule task sites).apply ad).get? Attribute.desiredSites =
      some (.lit (.str (",".intercalate (sites.map (·.text)))))
  /-- Every group has a task, and a task is in the group of its addition and in no other. -/
  groups : o.claims.groups.Partitions fun whitelist task =>
    o.modifications.replacement? task = none ∧
      (o.modifications.addition? task).map Whitelist.ofSites = some whitelist
  /-- A task whose whitelist is replaced is in no group, also if it is replaced by no site. -/
  blocked {task : String} (replaced : (o.modifications.replacement? task).isSome) :
    ∀ whitelist, ¬ o.InGroup whitelist task
  /-- Every other task is in one group exactly if some addition names a site. -/
  grouped {task : String} (free : o.modifications.replacement? task = none) :
    (∃! whitelist, o.InGroup whitelist task) ↔
      ∃ modification ∈ o.modifications.ofTask task, ∃ texts, modification.added = some texts ∧
        ∃ text ∈ texts, ∃ site, trimmedSite? text = some site
  /-- Its group is that of the first such addition. -/
  joined {task : String} {sites : SortedSet String}
    (free : o.modifications.replacement? task = none)
    (added : o.modifications.addition? task = some sites) :
    o.InGroup (.ofSites sites) task ∧ (Whitelist.ofSites sites).sites = sites.toList
  together {task task' : String} {sites sites' : SortedSet String}
    (free : o.modifications.replacement? task = none)
    (free' : o.modifications.replacement? task' = none)
    (added : o.modifications.addition? task = some sites)
    (added' : o.modifications.addition? task' = some sites') :
    (∃ whitelist, o.InGroup whitelist task ∧ o.InGroup whitelist task') ↔ sites = sites'

theorem existsUnique_inGroup_iff (free : o.modifications.replacement? task = none) :
    (∃! whitelist, o.InGroup whitelist task) ↔
      ∃ sites, o.modifications.addition? task = some sites := by
  simp only [inGroup_iff, free, true_and]
  cases o.modifications.addition? task with
  | none => simp [ExistsUnique]
  | some sites => simp

theorem share_group_iff {sites sites' : SortedSet String}
    (free : o.modifications.replacement? task = none)
    (free' : o.modifications.replacement? task' = none)
    (added : o.modifications.addition? task = some sites)
    (added' : o.modifications.addition? task' = some sites') :
    (∃ whitelist, o.InGroup whitelist task ∧ o.InGroup whitelist task') ↔ sites = sites' := by
  simp only [inGroup_iff, free, free', added, added', true_and, Option.map_some, Option.some.injEq]
  constructor
  · rintro ⟨whitelist, own, own'⟩
    exact eq_of_ofSites_eq added added' (own.trans own'.symm)
  · rintro rfl
    exact ⟨_, rfl, rfl⟩

/-- Whatever the modifications and the mapping are, the rules are those of a partition. -/
theorem tasks_are_partitioned (o : Overflow) : o.Partitions where
  rules := ⟨o.replacements, o.nodup_replacements, fun _ _ => mem_replacements_iff,
    o.rules_compile_eq_map⟩
  writes := get?_apply_replacementRule
  groups := ⟨o.inhabited_claims, fun _ _ => inGroup_iff⟩
  blocked := by
    intro task replaced whitelist member
    rw [(inGroup_iff.1 member).1] at replaced
    cases replaced
  grouped free := (existsUnique_inGroup_iff free).trans exists_addition?_iff
  joined := by
    intro task sites free added
    obtain ⟨texts, named⟩ := exists_siteSet?_of_addition? added
    exact ⟨inGroup_iff.2 ⟨free, by rw [added, Option.map_some]⟩, Whitelist.sites_ofSites named⟩
  together := share_group_iff

/-- A whitelist that is replaced by no site keeps the task out of all groups. -/
example : (Overflow.mk .empty (.ofList
      [("wf1", .ofList [("/wf/A", ⟨none, some []⟩)]),
        ("wf2", .ofList [("/wf/A", ⟨some ["T2_CH_CERN"], none⟩)])])).claims.isEmpty = true := by
  decide +kernel

end Overflow

end RoutingPolicy

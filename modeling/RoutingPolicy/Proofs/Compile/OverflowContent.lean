import RoutingPolicy.Proofs.Compile.Place
import RoutingPolicy.Proofs.Compile.Sites
import RoutingPolicy.Proofs.Site.Destinations

/-!
# What the rules on overflow depend on

Of a modification, the rules depend on the workflow, the task, the sites that replace the whitelist
and the set of sites that are added to it; of the mapping they depend on its inverse. How the sites
are spaced, which texts name no site, and the order in which sites are added does not show.
-/

namespace RoutingPolicy

set_option autoImplicit false

open Compile Compile.Overflow
open DestinationMap (Takes)

/-- What a modification says to the rules. -/
structure ListingContent where
  workflow : String
  task : String
  /-- The sites that replace the whitelist, if the modification replaces it. -/
  replacement : Option (List SiteName)
  /-- The set of sites that is added to the whitelist, if the modification adds to it; it may be
  empty. -/
  added : Option (Option Whitelist)

def Listing.content (l : Listing) : ListingContent where
  workflow := l.workflow
  task := l.task
  replacement := l.modification.replacement.map validSites
  added := l.modification.added.map fun texts =>
    Whitelist.canonical? ((validSites texts).map (·.text))

namespace ListingContent

def replacedBy? (contents : List ListingContent) (task : String) : Option String :=
  (contents.find? fun c => c.task == task && c.replacement.isSome).map (·.workflow)

def replacementRule? (contents : List ListingContent) (c : ListingContent) : Option Rule :=
  match c.replacement with
  | none => none
  | some sites =>
      if replacedBy? contents c.task = some c.workflow ∧ sites ≠ [] then
        some (replacementRule c.task sites)
      else none

/-- Enters the task into the groups, as far as the modification adds to the whitelist. -/
def enter (contents : List ListingContent) (groups : WhitelistGroups) (c : ListingContent) :
    WhitelistGroups :=
  match c.replacement, c.added with
  | none, some whitelist =>
      if (replacedBy? contents c.task).isSome then groups else groups.claim c.task whitelist
  | _, _ => groups

end ListingContent

theorem replacedBy?_eq_content (listings : List Listing) (task : String) :
    replacedBy? listings task = ListingContent.replacedBy? (listings.map Listing.content) task := by
  have tests : (fun l : Listing => l.task == task && l.modification.replacement.isSome) =
      (fun c : ListingContent => c.task == task && c.replacement.isSome) ∘ Listing.content := by
    funext l
    simp [Listing.content]
  rw [replacedBy?, ListingContent.replacedBy?, List.find?_map, tests, Option.map_map]
  rfl

theorem fst_addListing (m : Modifications) (groups : WhitelistGroups) (l : Listing) :
    (addListing (replaceListings m.listings).1 groups l).1 =
      l.content.enter (m.listings.map Listing.content) groups := by
  rw [addListing, ListingContent.enter, ← replacedBy?_eq_content, SortedMap.contains,
    get?_replaceListings, Listing.content]
  cases l.modification.replacement with
  | some sites => rfl
  | none =>
      cases l.modification.added with
      | none => rfl
      | some sites =>
          have entered := groups.fst_insert l.task ((validSites sites).map (·.text))
          simp only [validSites_nonblank, Option.map_none, Option.map_some, ← entered]
          split
          · rfl
          · cases groups.insert l.task ((validSites sites).map (·.text)) with
            | mk later outcome => cases outcome <;> rfl

theorem fst_addListings (m : Modifications) (rest : List Listing) (groups : WhitelistGroups) :
    (addListings (replaceListings m.listings).1 groups rest).1 =
      (rest.map Listing.content).foldl
        (fun groups c => c.enter (m.listings.map Listing.content) groups) groups := by
  induction rest generalizing groups with
  | nil => rfl
  | cons l rest induction =>
      rw [addListings, List.map_cons, List.foldl_cons, ← fst_addListing]
      exact induction _

namespace Overflow

def contents (o : Overflow) : List ListingContent := o.modifications.listings.map Listing.content

theorem claims_eq (o : Overflow) :
    o.claims = o.contents.foldl (fun groups c => c.enter o.contents groups) .empty :=
  fst_addListings _ _ _

theorem replacementRule?_eq (o : Overflow) (l : Listing) :
    o.replacementRule? l = l.content.replacementRule? o.contents := by
  rw [replacementRule?, ListingContent.replacementRule?, contents, ← replacedBy?_eq_content,
    Listing.content]
  cases l.modification.replacement with
  | none => rfl
  | some sites => simp only [validSites_nonblank, Option.map_some]

/-- The rules on overflow come from what the modifications say and from the inverted mapping. -/
theorem rules_compile_eq (o : Overflow) :
    Compiled.rules o.compile = o.contents.filterMap (·.replacementRule? o.contents) ++
      (o.claims.withMapping o.destinations).filterMap masterRule? := by
  rw [rules_compile, contents, List.filterMap_map]
  congr 1
  exact List.filterMap_congr fun l _ => o.replacementRule?_eq l

/-! ### The mapping -/

theorem takes_foldl_alter {m : SourcesByDestination} {destination source : String}
    {checked : List (String × List String)} :
    Takes (checked.foldl (fun m (destination, sources) =>
      m.alter destination fun known => some (known.getD [] ++ sources)) m) destination source ↔
        Takes m destination source ∨ ∃ sources, (destination, sources) ∈ checked ∧
          source ∈ sources := by
  induction checked generalizing m with
  | nil => simp
  | cons entry checked induction =>
      have first : Takes (m.alter entry.1 fun known => some (known.getD [] ++ entry.2))
          destination source ↔
            Takes m destination source ∨ destination = entry.1 ∧ source ∈ entry.2 := by
        rw [Takes, Takes, SortedMap.get?_alter]
        by_cases same : destination = entry.1
        · subst same
          cases m.get? entry.1 <;> simp
        · simp [same]
      rw [List.foldl_cons, induction, first, or_assoc]
      apply or_congr_right
      constructor
      · intro taken
        rcases taken with ⟨rfl, member⟩ | ⟨sources, listed, member⟩
        · exact ⟨entry.2, List.mem_cons_self, member⟩
        · exact ⟨sources, List.mem_cons_of_mem _ listed, member⟩
      · intro taken
        rcases taken with ⟨sources, listed, member⟩
        rcases List.mem_cons.1 listed with rfl | listed
        · exact .inl ⟨rfl, member⟩
        · exact .inr ⟨sources, listed, member⟩

theorem checkedEntry?_eq_some_iff {key destination : String} {texts sources : List String} :
    checkedEntry? key texts = some (destination, sources) ↔
      ∃ site, trimmedSite? key = some site ∧ site.text = destination ∧ validSites texts ≠ [] ∧
        (validSites texts).map (·.text) = sources := by
  simp only [ checkedEntry?, validSites_nonblank, Option.bind_eq_some_iff]
  refine exists_congr fun site => and_congr_right fun _ => ?_
  cases validSites texts <;> simp

theorem takes_checkedMapping {reversed : SourcesByDestination} {destination source : String} :
    Takes (checkedMapping reversed) destination source ↔
      ∃ entry ∈ reversed.entries, ∃ target, trimmedSite? entry.1 = some target ∧
        target.text = destination ∧ ∃ site ∈ validSites entry.2, site.text = source := by
  have nothing : ¬ Takes .empty destination source := by
    intro takes
    rcases takes with ⟨sources, found, _⟩
    cases found
  rw [checkedMapping, takes_foldl_alter, or_iff_right nothing]
  simp only [List.mem_filterMap, checkedEntry?_eq_some_iff]
  constructor
  · intro checked
    rcases checked with ⟨_, ⟨entry, listed, target, named, same, _, rfl⟩, member⟩
    exact ⟨entry, listed, target, named, same, List.mem_map.1 member⟩
  · intro listed
    rcases listed with ⟨entry, listed, target, named, same, site, member, text⟩
    exact ⟨_, ⟨entry, listed, target, named, same, List.ne_nil_of_mem member, rfl⟩,
      List.mem_map.2 ⟨site, member, text⟩⟩

theorem destinations_congr {o o' : Overflow}
    (same : ∀ destination source,
      Takes (checkedMapping o.reversedMapping) destination source ↔
        Takes (checkedMapping o'.reversedMapping) destination source) :
    o.destinations = o'.destinations :=
  DestinationMap.invert_congr same

theorem rules_compile_congr {o o' : Overflow} (contents : o.contents = o'.contents)
    (destinations : o.destinations = o'.destinations) :
    Compiled.rules o.compile = Compiled.rules o'.compile := by
  rw [rules_compile_eq, rules_compile_eq, claims_eq, claims_eq, contents, destinations]

end Overflow

end RoutingPolicy

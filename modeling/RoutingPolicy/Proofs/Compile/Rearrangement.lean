import RoutingPolicy.Proofs.Compile.Content
import RoutingPolicy.Proofs.Site.Canonical

/-!
# Lists that stand for sets

Tasks under a threshold, sites that are added to a whitelist, sources of a destination and requests
of high priority form sets: their order and repetition has no effect on any rule, and for the last
three neither have blanks around them. So each list may be replaced by the ascending list of its
members, which is the same for all lists that stand for one set.
-/

namespace RoutingPolicy

set_option autoImplicit false

open Text Compile Compile.Overflow

/-! ### Texts as sets -/

/-- The texts, ascending, each once. -/
def asSet (texts : List String) : List String := (SortedSet.ofList texts).toList

def asTrimmedSet (texts : List String) : List String := asSet (texts.map trim)

theorem mem_asSet {texts : List String} {s : String} : s ∈ asSet texts ↔ s ∈ texts :=
  SortedSet.mem_ofList

theorem ofList_asSet (texts : List String) :
    SortedSet.ofList (asSet texts) = SortedSet.ofList texts :=
  SortedSet.ofList_congr fun _ => mem_asSet

theorem exists_trim_asTrimmedSet {texts : List String} {s : String} :
    (∃ text ∈ asTrimmedSet texts, trim text = s) ↔ ∃ text ∈ texts, trim text = s := by
  simp only [asTrimmedSet, mem_asSet, List.mem_map, exists_exists_and_eq_and, trim_trim]

theorem ofList_nonblank_asTrimmedSet (texts : List String) :
    SortedSet.ofList (nonblank (asTrimmedSet texts)) = SortedSet.ofList (nonblank texts) := by
  apply SortedSet.ofList_congr
  intro s
  rw [mem_nonblank, mem_nonblank, exists_trim_asTrimmedSet]

theorem mem_validSites_asTrimmedSet {texts : List String} {site : SiteName} :
    site ∈ validSites (asTrimmedSet texts) ↔ site ∈ validSites texts := by
  rw [mem_validSites_iff, mem_validSites_iff, exists_trim_asTrimmedSet]

/-! ### Overflow -/

def TaskModification.setwise (m : TaskModification) : TaskModification :=
  { m with added := m.added.map asTrimmedSet }

namespace Overflow

def setwiseMapping : SourcesByDestination → SourcesByDestination := SortedMap.mapValues asTrimmedSet

def setwiseModifications : Modifications → Modifications :=
  SortedMap.mapValues (SortedMap.mapValues TaskModification.setwise)

def setwise (o : Overflow) : Overflow :=
  ⟨setwiseMapping o.reversedMapping, setwiseModifications o.modifications⟩

theorem listings_setwise (o : Overflow) :
    o.setwise.modifications.listings =
      o.modifications.listings.map fun l => ⟨l.workflow, l.task, l.modification.setwise⟩ := by
  simp only [Modifications.listings, setwise, setwiseModifications, SortedMap.entries_mapValues,
    List.flatMap_map, List.map_flatMap, List.map_map]
  rfl

theorem contents_setwise (o : Overflow) : o.setwise.contents = o.contents := by
  rw [contents, contents, listings_setwise, List.map_map]
  refine List.map_congr_left fun l _ => ?_
  have sites (texts : List String) :
      Whitelist.canonical? ((validSites (asTrimmedSet texts)).map (·.text)) =
        Whitelist.canonical? ((validSites texts).map (·.text)) := by
    apply Whitelist.canonical?_congr
    intro s
    simp only [Whitelist.IsMember, List.mem_map, mem_validSites_asTrimmedSet]
  simp only [Function.comp_apply, Listing.content, TaskModification.setwise, Option.map_map,
    Function.comp_def, sites]

theorem destinations_setwise (o : Overflow) : o.setwise.destinations = o.destinations := by
  apply destinations_congr
  intro destination source
  simp only [takes_checkedMapping, setwise, setwiseMapping, SortedMap.entries_mapValues,
    List.mem_map, exists_exists_and_eq_and, mem_validSites_asTrimmedSet]

theorem setwise_orElse (o other : Overflow) :
    (o.orElse other).setwise = o.setwise.orElse other.setwise := by
  have modifications (m other : Modifications) :
      setwiseModifications (mergeModifications m other) =
        mergeModifications (setwiseModifications m) (setwiseModifications other) := by
    rw [mergeModifications, mergeModifications, setwiseModifications, SortedMap.entries_mapValues,
      List.foldl_map]
    refine (List.foldl_hom (SortedMap.mapValues _) fun m entry => ?_).symm
    refine (SortedMap.mapValues_alter (fun known => ?_) m entry.1).symm
    rw [Option.map_some, SortedMap.mapValues_orElse]
    cases known <;> rfl
  rw [orElse, orElse, setwise, setwise, setwise, modifications]
  congr 1
  exact SortedMap.mapValues_orElse _ _

end Overflow

/-! ### Thresholds -/

namespace ThresholdMap

theorem taskSets_addKeys {m m' : ThresholdMap} (same : m.taskSets = m'.taskSets)
    (listed : List (String × List String)) :
    Except.map taskSets (addKeys m (listed.map fun e => (e.1, asSet e.2))) =
      Except.map taskSets (addKeys m' listed) := by
  induction listed generalizing m m' with
  | nil => exact congrArg Except.ok same
  | cons entry listed induction =>
      rw [List.map_cons, addKeys, addKeys]
      cases readThreshold? entry.1 with
      | none => rfl
      | some threshold =>
          apply induction
          rw [taskSets_insert, taskSets_insert, same, ofList_asSet]

/-- Sections with the same tasks under every key have the same tasks under every threshold, or fail
at the same key. -/
theorem taskSets_ofSection (listed : SortedMap String (List String)) :
    Except.map taskSets (ofSection (listed.mapValues asSet)) =
      Except.map taskSets (ofSection listed) := by
  rw [ofSection, ofSection, SortedMap.entries_mapValues]
  exact taskSets_addKeys rfl listed.entries

end ThresholdMap

end RoutingPolicy

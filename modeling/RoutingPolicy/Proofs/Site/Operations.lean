import RoutingPolicy.Proofs.Site.Entries

/-!
# Operations on site lists

Every operation reads the entries of a list, does to them what it would do to a list of texts, and
writes them down. So what is read off the result is given by the entries alone: how the list was
separated shows nowhere, and sorted lists are equal exactly when they have the same set of entries.
-/

set_option autoImplicit false

namespace RoutingPolicy.SiteList

theorem pairwise_entries_sorted (list : String) : (entries (sorted list)).Pairwise (· < ·) := by
  rw [entries_sorted]
  exact (SortedSet.ofList (entries list)).ascending.pairwise_lt

theorem sorted_eq_iff {list list' : String} :
    sorted list = sorted list' ↔ ∀ entry, entry ∈ entries list ↔ entry ∈ entries list' := by
  constructor
  · intro same entry
    rw [← mem_entries_sorted, same, mem_entries_sorted]
  · intro same
    rw [sorted, sorted, SortedSet.ofList_congr same]

/-- Expanding a list is putting the destinations of its distinct entries behind it and dropping
repetitions. -/
theorem entries_expand_eq_eraseDups {destinations : String → List String} {list : String}
    (single : ∀ source ∈ entries list, ∀ destination ∈ destinations source, IsEntry destination) :
    entries (expand destinations list) =
      (entries list ++ (entries list).eraseDups.flatMap destinations).eraseDups := by
  have again : ∀ more : List String,
      more.removeAll (entries list).eraseDups = more.removeAll (entries list) := by
    intro more
    rw [List.removeAll, List.removeAll]
    refine List.filter_congr fun entry _ => ?_
    rw [Bool.eq_iff_iff]
    simp [List.mem_eraseDups]
  rw [entries_expand single, addAllNew_eq_eraseDups, addAllNew_eq, again, List.eraseDups_append]

/-- What is read off a list that was written, narrowed down, sorted or expanded. -/
theorem operations_on_entries :
    (∀ (first second : String) (c : Char), isSeparator c = true →
      entries (first ++ (String.singleton c ++ second)) = entries first ++ entries second) ∧
    (∀ listed : List String, (∀ entry ∈ listed, IsEntry entry) → entries (join listed) = listed) ∧
    (∀ list site, entries (without list site) = (entries list).filter (· != site)) ∧
    (∀ list, (entries (sorted list)).Pairwise (· < ·) ∧
      ∀ entry, entry ∈ entries (sorted list) ↔ entry ∈ entries list) ∧
    (∀ list list', sorted list = sorted list' ↔
      ∀ entry, entry ∈ entries list ↔ entry ∈ entries list') ∧
    ∀ (destinations : String → List String) (list : String),
      (∀ source ∈ entries list, ∀ destination ∈ destinations source, IsEntry destination) →
      (entries (expand destinations list)).Nodup ∧
        entries (expand destinations list) =
          (entries list ++ (entries list).eraseDups.flatMap destinations).eraseDups := by
  refine ⟨?_, ?_, ?_, ?_, ?_, ?_⟩
  · intro first second c separator
    exact entries_append_separator separator first second
  · intro listed single
    exact entries_join single
  · intro list site
    exact entries_without list site
  · intro list
    exact ⟨pairwise_entries_sorted list, fun entry => mem_entries_sorted⟩
  · intro list list'
    exact sorted_eq_iff
  · intro destinations list single
    refine ⟨?_, entries_expand_eq_eraseDups single⟩
    rw [entries_expand single]
    exact nodup_addAllNew (nodup_addAllNew List.nodup_nil)

/-- A list with blanks, an empty entry and a repetition. -/
theorem operations_on_entries_of_four :
    let list := " T2_US_MIT,,T1_US_FNAL\tT2_US_MIT "
    let destinations : String → List String := fun source =>
      if source = "T1_US_FNAL" then ["T2_US_Purdue", "T2_US_MIT"] else []
    isSeparator '\t' = true ∧ IsEntry "T2_US_Purdue" ∧ IsEntry "T2_US_MIT" ∧
      entries list = ["T2_US_MIT", "T1_US_FNAL", "T2_US_MIT"] ∧
      entries (join ["T2_US_MIT", "T2_US_Purdue"]) = ["T2_US_MIT", "T2_US_Purdue"] ∧
      entries (expand destinations list) = ["T2_US_MIT", "T1_US_FNAL", "T2_US_Purdue"] := by
  intro list destinations
  have laws := operations_on_entries
  have purdue : IsEntry "T2_US_Purdue" := SiteName.isEntry ⟨"T2_US_Purdue", by decide +kernel⟩
  have mit : IsEntry "T2_US_MIT" := SiteName.isEntry ⟨"T2_US_MIT", by decide +kernel⟩
  have separated : entries list = ["T2_US_MIT", "T1_US_FNAL", "T2_US_MIT"] := by
    have cut := laws.1 " T2_US_MIT,,T1_US_FNAL" "T2_US_MIT " '\t' rfl
    rw [show list = " T2_US_MIT,,T1_US_FNAL" ++ (String.singleton '\t' ++ "T2_US_MIT ") from rfl,
      cut]
    decide +kernel
  have sent : ∀ source ∈ entries list, ∀ destination ∈ destinations source,
      IsEntry destination := by
    intro source _ destination listed
    by_cases fnal : source = "T1_US_FNAL"
    · simp only [destinations, if_pos fnal, List.mem_cons, List.not_mem_nil, or_false] at listed
      rcases listed with rfl | rfl
      · exact purdue
      · exact mit
    · simp [destinations, fnal] at listed
  refine ⟨rfl, purdue, mit, separated, ?_, ?_⟩
  · apply laws.2.1
    intro entry listed
    simp only [List.mem_cons, List.not_mem_nil, or_false] at listed
    rcases listed with rfl | rfl
    · exact mit
    · exact purdue
  · rw [(laws.2.2.2.2.2 destinations list sent).2, separated]
    decide +kernel

end RoutingPolicy.SiteList

import RoutingPolicy.Proofs.Site.Entries
import RoutingPolicy.Proofs.Text.Trimming
import RoutingPolicy.Site.Whitelist

/-!
# Whitelists as sets

The written form of a whitelist is read back by its commas, so as long as no member has a comma in
it a whitelist lists the members that it was made of, ascending and each once. It is made anew of
what it lists, and two lists of texts make the same whitelist exactly when they have the same
members. Names of sites have neither commas nor blanks in them: a whitelist of sites lists their
names.
-/

namespace RoutingPolicy

set_option autoImplicit false

namespace SiteList

theorem append_of_ne_empty {written : String} (filled : written ≠ "") (entry : String) :
    append written entry = written ++ "," ++ entry :=
  if_neg filled

theorem toList_foldl_append {written : String} (filled : written ≠ "") (listed : List String) :
    (listed.foldl append written).toList =
      [','].intercalate (written.toList :: listed.map String.toList) := by
  induction listed generalizing written with
  | nil => simp
  | cons entry rest induction =>
      have longer : append written entry ≠ "" := by
        rw [append_of_ne_empty filled]
        simp [String.append_eq_empty_iff]
      rw [List.foldl_cons, induction longer, append_of_ne_empty filled, List.map_cons]
      cases rest <;> simp

theorem toList_join {listed : List String} (filled : ∀ entry ∈ listed, entry ≠ "") :
    (join listed).toList = [','].intercalate (listed.map String.toList) := by
  cases listed with
  | nil => rfl
  | cons entry rest =>
      rw [join, List.foldl_cons, append, if_pos rfl]
      exact toList_foldl_append (filled entry List.mem_cons_self) rest

end SiteList

namespace Whitelist

variable {whitelist : Whitelist} {members texts : List String} {site : String}

theorem contains_iff : whitelist.contains site = true ↔ site ∈ whitelist.sites := by
  rw [contains, List.contains_iff_mem]

theorem sites_of_join (nonempty : members ≠ []) (filled : ∀ member ∈ members, member ≠ "")
    (plain : ∀ member ∈ members, ',' ∉ member.toList) :
    (Whitelist.mk (SiteList.join members)).sites = members := by
  have parts : ∀ part ∈ members.map String.toList, ',' ∉ part := by
    intro part listed
    obtain ⟨member, own, rfl⟩ := List.mem_map.1 listed
    exact plain member own
  have read := List.splitOn_intercalate ',' parts (by simpa using nonempty)
  rw [List.splitOn] at read
  rw [sites, SiteList.toList_join filled, read, List.map_map]
  simp [Function.comp_def]

theorem canonical?_eq_some_iff :
    canonical? texts = some whitelist ↔
      (SortedSet.ofList (Text.nonblank texts)).isEmpty = false ∧
        whitelist = ⟨SiteList.join (SortedSet.ofList (Text.nonblank texts)).toList⟩ := by
  rw [canonical?]
  cases (SortedSet.ofList (Text.nonblank texts)).isEmpty <;> simp [eq_comm]

theorem sites_of_canonical? (made : canonical? texts = some whitelist)
    (plain : ∀ text ∈ Text.nonblank texts, ',' ∉ text.toList) :
    whitelist.sites = (SortedSet.ofList (Text.nonblank texts)).toList := by
  obtain ⟨nonempty, rfl⟩ := canonical?_eq_some_iff.1 made
  apply sites_of_join
  · simpa [SortedSet.isEmpty] using nonempty
  · intro member listed
    have present : member ∈ Text.nonblank texts := SortedSet.mem_ofList.1 listed
    simpa using (List.mem_filter.1 present).2
  · intro member listed
    exact plain member (SortedSet.mem_ofList.1 listed)

/-! ### Canonical forms -/

/-- The site is one of the texts without the blanks around it, and not empty. -/
def IsMember (texts : List String) (site : String) : Prop :=
  site ≠ "" ∧ ∃ text ∈ texts, Text.trim text = site

variable {texts' : List String}

theorem mem_nonblank_iff_isMember : site ∈ Text.nonblank texts ↔ IsMember texts site :=
  Text.mem_nonblank.trans and_comm

theorem not_mem_of_nonblank {c : Char} (plain : ∀ text ∈ texts, c ∉ text.toList) :
    ∀ text ∈ Text.nonblank texts, c ∉ text.toList := by
  intro text listed comma
  rcases (Text.mem_nonblank.1 listed).1 with ⟨whole, own, rfl⟩
  exact plain whole own (Text.mem_of_mem_trim comma)

theorem forall_not_isMember_iff :
    (∀ site, ¬ IsMember texts site) ↔ ∀ text ∈ texts, Text.trim text = "" := by
  constructor
  · intro nothing text own
    by_contra filled
    exact nothing _ ⟨filled, text, own, rfl⟩
  · intro blank site member
    rcases member with ⟨filled, text, own, trimmed⟩
    exact filled (trimmed.symm.trans (blank text own))

theorem canonical?_eq_none_iff :
    canonical? texts = none ↔ ∀ site, ¬ IsMember texts site := by
  have nothing : (SortedSet.ofList (Text.nonblank texts)).isEmpty = true ↔
      ∀ site, ¬ IsMember texts site := by
    rw [SortedSet.isEmpty, List.isEmpty_iff, List.eq_nil_iff_forall_not_mem]
    exact forall_congr' fun _ => not_congr (SortedSet.mem_ofList.trans mem_nonblank_iff_isMember)
  rw [← nothing, canonical?]
  cases (SortedSet.ofList (Text.nonblank texts)).isEmpty <;> simp

theorem canonical?_congr (same : ∀ site, IsMember texts site ↔ IsMember texts' site) :
    canonical? texts = canonical? texts' := by
  have sets : SortedSet.ofList (Text.nonblank texts) = SortedSet.ofList (Text.nonblank texts') := by
    apply SortedSet.ofList_congr
    intro site
    rw [mem_nonblank_iff_isMember, mem_nonblank_iff_isMember, same]
  rw [canonical?, canonical?, sets]

theorem pairwise_sites (plain : ∀ text ∈ texts, ',' ∉ text.toList)
    (made : canonical? texts = some whitelist) : whitelist.sites.Pairwise (· < ·) := by
  rw [sites_of_canonical? made (not_mem_of_nonblank plain)]
  exact (SortedSet.ofList (Text.nonblank texts)).ascending.pairwise_lt

theorem mem_sites_iff (plain : ∀ text ∈ texts, ',' ∉ text.toList)
    (made : canonical? texts = some whitelist) :
    site ∈ whitelist.sites ↔ IsMember texts site := by
  rw [sites_of_canonical? made (not_mem_of_nonblank plain), ← mem_nonblank_iff_isMember]
  exact SortedSet.mem_ofList

theorem canonical?_sites (plain : ∀ text ∈ texts, ',' ∉ text.toList)
    (made : canonical? texts = some whitelist) : canonical? whitelist.sites = some whitelist := by
  rw [← made]
  apply canonical?_congr
  intro site
  constructor
  · intro again
    rcases again with ⟨filled, listed, own, trimmed⟩
    rcases (mem_sites_iff plain made).1 own with ⟨_, text, there, rfl⟩
    exact ⟨filled, text, there, (Text.trim_trim text).symm.trans trimmed⟩
  · intro member
    refine ⟨member.1, site, (mem_sites_iff plain made).2 member, ?_⟩
    rcases member.2 with ⟨text, _, rfl⟩
    exact Text.trim_trim text

theorem canonical?_eq_iff (plain : ∀ text ∈ texts, ',' ∉ text.toList)
    (plain' : ∀ text ∈ texts', ',' ∉ text.toList) :
    canonical? texts = canonical? texts' ↔ ∀ site, IsMember texts site ↔ IsMember texts' site := by
  refine ⟨fun same site => ?_, canonical?_congr⟩
  cases made : canonical? texts with
  | some whitelist =>
      rw [← mem_sites_iff plain made, ← mem_sites_iff plain' (same.symm.trans made)]
  | none =>
      have nothing := canonical?_eq_none_iff.1 made
      have nothing' := canonical?_eq_none_iff.1 (same.symm.trans made)
      exact iff_of_false (nothing site) (nothing' site)

/-- A whitelist stands for the set of its members: there is none exactly if all texts are blank, it
lists the members in ascending order, is made anew of them, and is the same for the same members. -/
theorem canonical?_stands_for_members (plain : ∀ text ∈ texts, ',' ∉ text.toList)
    (plain' : ∀ text ∈ texts', ',' ∉ text.toList) :
    (canonical? texts = none ↔ ∀ text ∈ texts, Text.trim text = "") ∧
      (∀ whitelist, canonical? texts = some whitelist →
        whitelist.sites.Pairwise (· < ·) ∧
        (∀ site, site ∈ whitelist.sites ↔ IsMember texts site) ∧
        (∀ site, whitelist.contains site = true ↔ IsMember texts site) ∧
        canonical? whitelist.sites = some whitelist) ∧
      (canonical? texts = canonical? texts' ↔
        ∀ site, IsMember texts site ↔ IsMember texts' site) := by
  refine ⟨canonical?_eq_none_iff.trans forall_not_isMember_iff, ?_, canonical?_eq_iff plain plain'⟩
  intro whitelist made
  refine ⟨pairwise_sites plain made, fun site => mem_sites_iff plain made, fun site => ?_,
    canonical?_sites plain made⟩
  rw [contains_iff, mem_sites_iff plain made]

/-- Two lists of two sites, in another order, spacing and repetition. -/
theorem canonical?_stands_for_members_of_two :
    let texts := [" T2_US_MIT", "", "T1_US_FNAL\t", "T2_US_MIT"]
    let texts' := ["T1_US_FNAL", "T2_US_MIT "]
    (∀ text ∈ texts, ',' ∉ text.toList) ∧ (∀ text ∈ texts', ',' ∉ text.toList) ∧
      canonical? texts = some ⟨"T1_US_FNAL,T2_US_MIT"⟩ ∧
      canonical? ["T1_US_FNAL", "T2_US_MIT"] = some ⟨"T1_US_FNAL,T2_US_MIT"⟩ ∧
      ∀ site, IsMember texts site ↔ IsMember texts' site := by
  intro texts texts'
  have plain : ∀ text ∈ texts, ',' ∉ text.toList := by decide +kernel
  have plain' : ∀ text ∈ texts', ',' ∉ text.toList := by decide +kernel
  have made : canonical? texts = some ⟨"T1_US_FNAL,T2_US_MIT"⟩ := by decide +kernel
  have made' : canonical? texts' = some ⟨"T1_US_FNAL,T2_US_MIT"⟩ := by decide +kernel
  have laws := canonical?_stands_for_members plain plain'
  have listed : (Whitelist.mk "T1_US_FNAL,T2_US_MIT").sites = ["T1_US_FNAL", "T2_US_MIT"] := by
    decide +kernel
  refine ⟨plain, plain', made, ?_, laws.2.2.1 (made.trans made'.symm)⟩
  rw [← listed]
  exact (laws.2.1 _ made).2.2.2

/-! ### Whitelists of sites -/

theorem nonblank_text (sites : List SiteName) :
    Text.nonblank (sites.map (·.text)) = sites.map (·.text) := by
  rw [Text.nonblank, List.map_map, List.filter_eq_self.2]
  · exact List.map_congr_left fun site _ => site.isEntry.trim_eq
  · intro text listed
    obtain ⟨site, _, rfl⟩ := List.mem_map.1 listed
    simpa [site.isEntry.trim_eq] using site.isEntry.1

theorem sites_of_sites {listed : List SiteName}
    (made : canonical? (listed.map (·.text)) = some whitelist) :
    whitelist.sites = (SortedSet.ofList (listed.map (·.text))).toList := by
  rw [sites_of_canonical? made, nonblank_text]
  intro text present comma
  rw [nonblank_text] at present
  obtain ⟨site, _, rfl⟩ := List.mem_map.1 present
  exact absurd (site.isEntry.2 ',' comma) (by decide)

end Whitelist

end RoutingPolicy

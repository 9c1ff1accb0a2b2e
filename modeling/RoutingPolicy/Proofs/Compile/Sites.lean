import RoutingPolicy.Compile.Sites
import RoutingPolicy.Proofs.Text.Trimming

/-!
# The sites that a list of texts names

A text names at most one site, whatever blanks stand around it, and a blank text names none. So the
sites of a list are the same when blank texts and texts that name no site are dropped, and which
sites they are depends on the trimmed texts alone, not on their order or repetition.
-/

set_option autoImplicit false

namespace RoutingPolicy

open Text

theorem trimmedSite?_eq_some_iff {s : String} {site : SiteName} :
    trimmedSite? s = some site ↔ trim s = site.text := by
  rw [trimmedSite?, eq_comm (a := trim s), ← SiteName.ofString?_eq_ok_iff]
  cases SiteName.ofString? (trim s) <;> simp [Except.toOption]

theorem trimmedSite?_trim (s : String) : trimmedSite? (trim s) = trimmedSite? s := by
  rw [trimmedSite?, trimmedSite?, trim_trim]

theorem trimmedSite?_empty : trimmedSite? "" = none := by
  decide +kernel

theorem filterMap_trimmedSite?_nonblank (texts : List String) :
    (nonblank texts).filterMap trimmedSite? = texts.filterMap trimmedSite? := by
  induction texts with
  | nil => rfl
  | cons s texts induction =>
      rw [nonblank, List.map_cons, List.filterMap_cons, ← trimmedSite?_trim]
      by_cases blank : trim s = ""
      · rw [List.filter_cons_of_neg (by simpa using blank), blank, trimmedSite?_empty]
        exact induction
      · rw [List.filter_cons_of_pos (by simpa using blank), List.filterMap_cons,
          ← nonblank, induction]

theorem validSites_nonblank (texts : List String) :
    validSites (nonblank texts) = validSites texts := by
  rw [validSites, validSites, filterMap_trimmedSite?_nonblank]

theorem validSites_eq_eraseDups (texts : List String) :
    validSites texts = (texts.filterMap trimmedSite?).eraseDups :=
  addAllNew_eq_eraseDups _

theorem mem_validSites_iff {texts : List String} {site : SiteName} :
    site ∈ validSites texts ↔ ∃ text ∈ texts, trim text = site.text := by
  simp only [validSites, mem_addAllNew, List.not_mem_nil, false_or, List.mem_filterMap,
    trimmedSite?_eq_some_iff]

end RoutingPolicy

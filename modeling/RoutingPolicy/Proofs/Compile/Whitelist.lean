import RoutingPolicy.Proofs.Compile.Convergence
import RoutingPolicy.Proofs.Regex.Literal
import RoutingPolicy.Proofs.Site.Entries

/-!
# What rules make of a whitelist

A rule that rewrites a whitelist copies it first and computes the new one from the copy, so on a job
with a literal whitelist the new one is again a literal, and a function of the old. All of these
functions work on entries: sorting keeps them, holding takes a site out, releasing and the fixed
correction for tier 0 append one unless it is there.
-/

namespace RoutingPolicy

set_option autoImplicit false

open Compile Compile.Hold Compile.Correction

/-! ### Appending and restoring -/

namespace SiteList

def adding (list site : String) : String :=
  if contains list site then list else list ++ ("," ++ site)

/-- The list that a release leaves: an empty list has no separator to put in front of the site. -/
def restored (list site : String) : String := if list = "" then site else adding list site

variable {entry list site : String}

theorem entries_adding (single : IsEntry site) :
    entries (adding list site) = addNew (entries list) site := by
  rw [adding, addNew, contains]
  split
  · rfl
  · rw [entries_append_comma, entries_of_isEntry single]

theorem entries_restored (single : IsEntry site) :
    entries (restored list site) = addNew (entries list) site := by
  rw [restored]
  split
  · next empty =>
      rw [empty, entries_empty, entries_of_isEntry single]
      rfl
  · exact entries_adding single

theorem entries_restored_without (single : IsEntry site) :
    entries (restored (without list site) site) =
      (entries list).filter (· != site) ++ [site] := by
  have out : ((entries list).filter (· != site)).contains site = false := by
    simp
  rw [entries_restored single, entries_without, addNew, out]
  rfl

theorem mem_entries_adding (single : IsEntry site) :
    entry ∈ entries (adding list site) ↔ entry ∈ entries list ∨ entry = site := by
  rw [entries_adding single, mem_addNew]

theorem mem_entries_restored (single : IsEntry site) :
    entry ∈ entries (restored list site) ↔ entry ∈ entries list ∨ entry = site := by
  rw [entries_restored single, mem_addNew]

end SiteList

/-! ### Names of sites as entries and as patterns -/

namespace SiteName

variable {site : SiteName} {list : String}

theorem text_injective : Function.Injective SiteName.text := by
  rintro ⟨text, form⟩ ⟨text', form'⟩ same
  cases same
  rfl

theorem any_contains_charTable : ('-' :: Regex.operators).any charTable.contains = false := by
  decide +kernel

theorem isLiteral_of_mem {c : Char} (member : c ∈ site.text.toList) : Regex.isLiteral c = true := by
  have own := site.contains_charTable c member
  rw [Regex.isLiteral, Bool.not_eq_true', Bool.eq_false_iff, Ne, List.contains_iff_mem]
  intro operator
  exact List.any_eq_false.1 any_contains_charTable c (List.mem_cons_of_mem _ operator) own

/-- A name matches the whitelists in which it stands in one piece, unless it is too long for a
pattern. -/
theorem matchesPattern_iff : (Value.str list).matchesPattern site.text = .bool true ↔
    (Regex.read? site.text).isSome = true ∧ site.text.toList <:+: list.toList := by
  cases read : Regex.read? site.text with
  | none => simp [Value.matchesPattern, read, Value.ofBool?]
  | some r =>
      have plain : ∀ c ∈ site.text.toList, Regex.isLiteral c = true := by
        intro c member
        exact isLiteral_of_mem member
      have fits : r.isMatch list = true ↔ site.text.toList <:+: list.toList := by
        rw [Regex.eq_literal_of_read? read plain]
        exact Regex.isMatch_literal_iff
      simp [Value.matchesPattern, read, fits, Value.ofBool?]

theorem trimmedSite?_text (site : SiteName) : trimmedSite? site.text = some site := by
  have read : ofString? site.text = .ok site := ofString?_eq_ok_iff.2 rfl
  rw [trimmedSite?, site.isEntry.trim_eq, read]
  rfl

end SiteName

theorem Text.sameIgnoringCase_empty {s : String} : sameIgnoringCase s "" = decide (s = "") := by
  rw [Bool.eq_iff_iff, sameIgnoringCase_iff, decide_eq_true_iff]
  constructor
  · intro same
    rw [← String.toList_inj] at same
    simpa [toList_foldCase, String.toList_eq_nil_iff] using same
  · rintro rfl
    rfl

/-! ### Values of the new whitelists -/

namespace JobAd

variable {ad : JobAd} {saved list site : String}

theorem eval_sorted (value : ad.evalAttr saved = .str list) :
    ad.eval (.call .sortStringSet [.named saved]) = .str (SiteList.sorted list) := by
  change Func.sortStringSet.apply [ad.evalAttr saved] = _
  rw [value]
  rfl

theorem eval_without (value : ad.evalAttr saved = .str list) :
    ad.eval (.call .removeSite [.str site, .named saved]) = .str (SiteList.without list site) := by
  change Func.removeSite.apply [.str site, ad.evalAttr saved] = _
  rw [value]
  rfl

theorem eval_adding (value : ad.evalAttr saved = .str list) :
    ad.eval (.cond (.call .stringListMember [.str site, .named saved]) (.named saved)
      (.call .strcat [.named saved, .str ("," ++ site)])) = .str (SiteList.adding list site) := by
  have known : ad.eval (.call .stringListMember [.str site, .named saved]) =
      .bool (SiteList.contains list site) := by
    change Func.stringListMember.apply [.str site, ad.evalAttr saved] = _
    rw [value]
    rfl
  have longer : ad.eval (.call .strcat [.named saved, .str ("," ++ site)]) =
      .str (list ++ ("," ++ site)) := by
    change Value.concatenate [ad.evalAttr saved, .str ("," ++ site)] = _
    rw [value]
    simp [Value.concatenate, Value.isError, Value.isUndefined, Value.piece?, String.join]
  rw [eval_cond_of_bool known, SiteList.adding, longer, eval_named, value]
  split <;> rfl

theorem eval_restored {site : SiteName}
    (value : ad.evalAttr Attribute.releasingDesiredSites = .str list) :
    ad.eval (restoredExpr site) = .str (SiteList.restored list site.text) := by
  have compared : ad.eval (.compare .equal (.named Attribute.releasingDesiredSites) (.str "")) =
      .bool (decide (list = "")) := by
    change Comparison.equal.apply (ad.evalAttr Attribute.releasingDesiredSites) (.str "") = _
    rw [value, Comparison.apply_equal_str, Text.sameIgnoringCase_empty]
  rw [restoredExpr, eval_cond_of_bool compared, eval_adding value, SiteList.restored]
  by_cases empty : list = "" <;> simp [empty]

end JobAd

/-! ### Guards -/

namespace Compile.Hold

variable {options : CompileOptions} {selector : Expr} {site : SiteName} {ad : JobAd}

theorem matchesAd_holdTasksRule_iff : (holdTasksRule options selector).matchesAd ad = true ↔
    ad.evalAttr Marker.hasBeenSetHeld ≠ .bool true ∧ ad.eval selector = .bool true := by
  rw [Rule.matchesAd, Guard.holds_iff]
  simp only [holdTasksRule, Rule.make, List.mem_cons, List.not_mem_nil, or_false,
    forall_eq_or_imp, forall_eq, JobAd.eval_flagIsNotTrue_eq_true_iff, AttrRef.name_plain]

theorem matchesAd_releaseTasksRule_iff : (releaseTasksRule selector).matchesAd ad = true ↔
    ad.evalAttr Marker.hasBeenSetHeld = .bool true ∧ ad.eval selector = .bool true := by
  rw [Rule.matchesAd, Guard.holds_iff]
  simp [releaseTasksRule, Rule.make]

theorem matchesAd_holdSiteRule_iff : (holdSiteRule site).matchesAd ad = true ↔
    (ad.evalAttr Attribute.desiredSites).matchesPattern site.text = .bool true ∧
      ad.evalAttr (Marker.heldFrom site) ≠ .bool true := by
  rw [Rule.matchesAd, Guard.holds_iff]
  simp only [holdSiteRule, Rule.make, List.mem_cons, List.not_mem_nil, or_false,
    forall_eq_or_imp, forall_eq, JobAd.eval_matchesRegex, JobAd.eval_flagIsNotTrue_eq_true_iff,
    AttrRef.name_plain]

theorem matchesAd_releaseSiteRule_iff : (releaseSiteRule site).matchesAd ad = true ↔
    ad.evalAttr (Marker.heldFrom site) = .bool true := by
  rw [Rule.matchesAd, Guard.holds_iff]
  simp [releaseSiteRule, Rule.make]

end Compile.Hold

/-! ### Rules one by one -/

def cern : SiteName := ⟨t0OverflowSite, by decide +kernel⟩

theorem Marker.sameIgnoringCase_heldFrom_desiredSites (site : SiteName) :
    Text.sameIgnoringCase (heldFrom site) Attribute.desiredSites = false :=
  sameIgnoringCase_of_isHeldFrom (isHeldFrom_heldFrom site) (by decide +kernel)

theorem Rule.get?_apply_whitelist {category : Category} {name saved flag list list' : String}
    {truth : Bool} {guard : List Expr} {after : List Mutation} {e : Expr} {ad : JobAd}
    (bound : ad.get? Attribute.desiredSites = some (.lit (.str list)))
    (later : ∀ m ∈ after, Text.sameIgnoringCase m.target Attribute.desiredSites = false)
    (other : Text.sameIgnoringCase flag Attribute.desiredSites = false)
    (computes : ∀ copied : JobAd, copied.evalAttr saved = .str list →
      copied.eval e = .str list') :
    ((make category name guard (.copy Attribute.desiredSites saved ::
      .evalSet Attribute.desiredSites e :: after) [⟨flag, truth⟩]).apply ad).get?
        Attribute.desiredSites = some (.lit (.str list')) := by
  have unrouted : Text.sameIgnoringCase Marker.hasBeenRouted Attribute.desiredSites = false := by
    decide +kernel
  obtain ⟨copied, read, written⟩ := get?_apply_recomputed rfl later
    (any_markers_make_eq_false other unrouted) bound
  rw [written, computes copied read]

theorem Rule.get?_apply_copy {r : Rule} {source destination : String} {after : List Mutation}
    {ad : JobAd} (parts : r.mutations = .copy source destination :: after)
    (later : ∀ m ∈ after, Text.sameIgnoringCase m.target destination = false)
    (unmarked : (r.markers.any fun m => Text.sameIgnoringCase m.flag destination) = false) :
    (r.apply ad).get? destination = (ad.get? source).or (ad.get? destination) := by
  have split : r.mutations = [] ++ .copy source destination :: after := parts
  rw [get?_apply_last ad split later unmarked, List.foldl_nil, Mutation.apply]
  cases ad.get? source with
  | none => rfl
  | some e => exact (ad.get?_bind _ _ _).trans (if_pos rfl)

theorem Rule.get?_apply_copied {r : Rule} {source destination : String} {after : List Mutation}
    {e : Expr} {ad : JobAd} (parts : r.mutations = .copy source destination :: after)
    (later : ∀ m ∈ after, Text.sameIgnoringCase m.target destination = false)
    (unmarked : (r.markers.any fun m => Text.sameIgnoringCase m.flag destination) = false)
    (bound : ad.get? source = some e) : (r.apply ad).get? destination = some e := by
  rw [get?_apply_copy parts later unmarked, bound, Option.some_or]

namespace Compile

variable {ad : JobAd} {list : String} {e : Expr}

theorem Correction.get?_apply_sortRule
    (bound : ad.get? Attribute.desiredSites = some (.lit (.str list))) :
    (sortRule.apply ad).get? Attribute.desiredSites =
      some (.lit (.str (SiteList.sorted list))) :=
  Rule.get?_apply_whitelist bound (by simp) (by decide +kernel) fun _ => JobAd.eval_sorted

theorem Correction.isEntry_t0OverflowSite : SiteList.IsEntry t0OverflowSite :=
  cern.isEntry

theorem Correction.get?_apply_t0SpillRule
    (bound : ad.get? Attribute.desiredSites = some (.lit (.str list))) :
    (t0SpillRule.apply ad).get? Attribute.desiredSites =
      some (.lit (.str (SiteList.adding list t0OverflowSite))) :=
  Rule.get?_apply_whitelist bound (by simp) (by decide +kernel) fun _ => JobAd.eval_adding

theorem Correction.get?_apply_multicoreRule (ad : JobAd) :
    (multicoreRule.apply ad).get? Attribute.desiredSites =
      some (.lit (.str "T1_ES_PIC,T2_ES_CIEMAT")) :=
  latches_multicoreRule.closes ad

theorem Hold.get?_apply_holdSiteRule (site : SiteName)
    (bound : ad.get? Attribute.desiredSites = some (.lit (.str list))) :
    ((holdSiteRule site).apply ad).get? Attribute.desiredSites =
      some (.lit (.str (SiteList.without list site.text))) :=
  Rule.get?_apply_whitelist bound (by simp) (Marker.sameIgnoringCase_heldFrom_desiredSites site)
    fun _ => JobAd.eval_without

theorem Hold.get?_apply_releaseSiteRule (site : SiteName)
    (bound : ad.get? Attribute.desiredSites = some (.lit (.str list))) :
    ((releaseSiteRule site).apply ad).get? Attribute.desiredSites =
      some (.lit (.str (SiteList.restored list site.text))) := by
  have deletes : ∀ m ∈ [Mutation.delete Attribute.releasingDesiredSites],
      Text.sameIgnoringCase m.target Attribute.desiredSites = false := by
    decide +kernel
  exact Rule.get?_apply_whitelist bound deletes
    (Marker.sameIgnoringCase_heldFrom_desiredSites site) fun _ => JobAd.eval_restored

theorem Hold.get?_apply_releaseSiteRule_saved (site : SiteName) (ad : JobAd) :
    ((releaseSiteRule site).apply ad).get? Attribute.releasingDesiredSites = none := by
  have parts : (releaseSiteRule site).mutations =
      [.copy Attribute.desiredSites Attribute.releasingDesiredSites,
        .evalSet Attribute.desiredSites (restoredExpr site)] ++
        .delete Attribute.releasingDesiredSites :: [] := rfl
  have other : Text.sameIgnoringCase (Marker.heldFrom site) Attribute.releasingDesiredSites =
      false :=
    Marker.sameIgnoringCase_of_isHeldFrom (Marker.isHeldFrom_heldFrom site) (by decide +kernel)
  apply Rule.get?_apply_delete ad parts (by simp)
  exact Rule.any_markers_make_eq_false other (by decide +kernel)

theorem Hold.get?_apply_holdTasksRule (options : CompileOptions) (selector : Expr) (ad : JobAd) :
    ((holdTasksRule options selector).apply ad).get? Attribute.desiredSites =
      some (.lit (.str options.holdSite)) := by
  have parts : (holdTasksRule options selector).mutations =
      [.copy Attribute.desiredSites Attribute.heldDesiredSites] ++
        .set Attribute.desiredSites (.str options.holdSite) :: [] := rfl
  apply Rule.get?_apply_set ad parts (by simp)
  exact Rule.any_markers_make_eq_false (by decide +kernel) (by decide +kernel)

theorem Hold.get?_apply_holdTasksRule_held (options : CompileOptions) (selector : Expr)
    (ad : JobAd) :
    ((holdTasksRule options selector).apply ad).get? Attribute.heldDesiredSites =
      (ad.get? Attribute.desiredSites).or (ad.get? Attribute.heldDesiredSites) := by
  have apart : Text.sameIgnoringCase Attribute.desiredSites Attribute.heldDesiredSites = false := by
    decide +kernel
  have sets : ∀ m ∈ [Mutation.set Attribute.desiredSites (.str options.holdSite)],
      Text.sameIgnoringCase m.target Attribute.heldDesiredSites = false := by
    intro m member
    obtain rfl := List.mem_singleton.1 member
    exact apart
  apply Rule.get?_apply_copy rfl sets
  exact Rule.any_markers_make_eq_false (by decide +kernel) (by decide +kernel)

theorem Hold.get?_apply_releaseTasksRule (selector : Expr) (ad : JobAd) :
    ((releaseTasksRule selector).apply ad).get? Attribute.desiredSites =
      (ad.get? Attribute.heldDesiredSites).or (ad.get? Attribute.desiredSites) := by
  have deletes : ∀ m ∈ [Mutation.delete Attribute.heldDesiredSites],
      Text.sameIgnoringCase m.target Attribute.desiredSites = false := by
    decide +kernel
  apply Rule.get?_apply_copy rfl deletes
  exact Rule.any_markers_make_eq_false (by decide +kernel) (by decide +kernel)

theorem Hold.get?_apply_releaseTasksRule_held (selector : Expr) (ad : JobAd) :
    ((releaseTasksRule selector).apply ad).get? Attribute.heldDesiredSites = none := by
  have parts : (releaseTasksRule selector).mutations =
      [.copy Attribute.heldDesiredSites Attribute.desiredSites] ++
        .delete Attribute.heldDesiredSites :: [] := rfl
  apply Rule.get?_apply_delete ad parts (by simp)
  exact Rule.any_markers_make_eq_false (by decide +kernel) (by decide +kernel)

end Compile

end RoutingPolicy

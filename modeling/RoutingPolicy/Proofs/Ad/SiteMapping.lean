import RoutingPolicy.Proofs.Ad.Reading
import RoutingPolicy.Proofs.Site.Destinations

/-!
# Site mappings as records

A mapping reaches an expression as a record that lists the destinations of every source. Reading a
field of this record gives what the mapping gives, and all fields are lists of texts, so expansion
by the function on records is expansion by the mapping and never an error. Where the mapping is the
inverse of what a policy lists, narrowed down to a whitelist, it has the pairs listed whose
destination is in the whitelist.
-/

set_option autoImplicit false

namespace RoutingPolicy

/-! ### Fields -/

theorem SortedMap.lookup_eq_get? {α β : Type} (m : SortedMap String α) (f : α → β) (k : String) :
    (m.entries.map fun e => (e.1, f e.2)).lookup k = (m.get? k).map f := by
  rw [get?]
  induction m.entries with
  | nil => rfl
  | cons entry rest induction =>
      obtain ⟨key, value⟩ := entry
      rw [List.map_cons, List.lookup_cons, lookup, induction]
      by_cases own : k = key
      · simp [own]
      · have other : compare k key ≠ .eq := fun same => own (Std.LawfulEqOrd.eq_of_compare same)
        rw [beq_eq_false_iff_ne.2 own, if_neg other]

namespace Value

theorem destinations?_ofMapping (mapping : ScopedMapping) (source : String) :
    destinations? (mapping.bySource.entries.map fun (s, listed) => (s, ofStrings listed)) source =
      some ((mapping.get? source).getD []) := by
  have texts : ∀ listed : List String, (listed.map str).mapM str? = some listed := by
    intro listed
    induction listed with
    | nil => rfl
    | cons text rest induction => simp [induction, str?]
  rw [destinations?, SortedMap.lookup_eq_get? mapping.bySource ofStrings, ScopedMapping.get?]
  cases mapping.bySource.get? source with
  | none => rfl
  | some listed => exact texts listed

theorem mapSites_ofMapping (mapping : ScopedMapping) (list : String) :
    mapSites list (mapping.bySource.entries.map fun (s, listed) => (s, ofStrings listed)) =
      str (mapping.expand list) := by
  simp only [mapSites, destinations?_ofMapping, Option.isSome_some, Option.getD_some]
  rw [if_pos (List.all_eq_true.2 fun _ _ => rfl), ScopedMapping.expand]

end Value

/-! ### Expansion -/

namespace ScopedMapping

/-- The destination is one of the source. -/
def Sends (mapping : ScopedMapping) (source destination : String) : Prop :=
  ∃ kept, mapping.get? source = some kept ∧ destination ∈ kept

theorem sends_iff {mapping : ScopedMapping} {source destination : String} :
    mapping.Sends source destination ↔ destination ∈ (mapping.get? source).getD [] := by
  rw [Sends]
  cases mapping.get? source <;> simp

end ScopedMapping

theorem JobAd.eval_siteMapping (ad : JobAd) (mapping : ScopedMapping) {sites : Expr} {list : String}
    (value : ad.eval sites = .str list) :
    ad.eval (.call .siteMapping [sites, .lit (.ofMapping mapping)]) =
      .str (mapping.expand list) := by
  have applied : ad.eval (.call .siteMapping [sites, .lit (.ofMapping mapping)]) =
      Func.siteMapping.apply [ad.eval sites, .ofMapping mapping] := rfl
  rw [applied, value]
  exact Value.mapSites_ofMapping mapping list

open DestinationMap (Takes invert) in
/-- The inverse of what a policy lists has the same pairs, a whitelist keeps those whose destination
it contains, in ascending order and without empty lists, and the record of what is kept expands
every list as the mapping itself does. -/
theorem DestinationMap.siteMapping_scoped_invert (sources : SourcesByDestination)
    (whitelist : Whitelist) :
    (∀ s d, (invert sources).Sends s d ↔ Takes sources d s) ∧
    (∀ s d, ((invert sources).scoped whitelist).Sends s d ↔
      Takes sources d s ∧ whitelist.contains d = true) ∧
    (∀ s kept, ((invert sources).scoped whitelist).get? s = some kept →
      kept ≠ [] ∧ Ascending kept) ∧
    ∀ (ad : JobAd) (sites : Expr) (list : String), ad.eval sites = .str list →
      ad.eval (.call .siteMapping
          [sites, .lit (.ofMapping ((invert sources).scoped whitelist))]) =
        .str (((invert sources).scoped whitelist).expand list) := by
  refine ⟨fun _ _ => sends_invert, ?_, ?_, ?_⟩
  · intro s d
    rw [ScopedMapping.sends_iff, mem_getD_get?_scoped, sends_invert, and_comm]
  · intro s kept found
    have ascending := ascending_getD_get?_scoped (invert sources) whitelist s
    rw [found] at ascending
    exact ⟨ne_nil_of_get?_scoped found, ascending⟩
  · intro ad sites list value
    exact ad.eval_siteMapping _ value

/-- Three sites take jobs from one in America, and two of them are in the whitelist. -/
theorem DestinationMap.siteMapping_scoped_invert_of_three :
    let sources : SourcesByDestination :=
      ((SortedMap.empty.insert "T2_DE_DESY" ["T1_US_FNAL"]).insert
        "T2_CH_CERN" ["T2_US_MIT", "T1_US_FNAL"]).insert "T2_UK_RALPP" ["T1_US_FNAL"]
    let mapping := (DestinationMap.invert sources).scoped ⟨"T2_CH_CERN,T2_DE_DESY"⟩
    let ad := JobAd.empty.assign "DESIRED_Sites" (.str "T1_US_FNAL, anywhere")
    mapping.Sends "T1_US_FNAL" "T2_DE_DESY" ∧ ¬ mapping.Sends "T1_US_FNAL" "T2_UK_RALPP" ∧
      ad.eval (.call .siteMapping [.named "DESIRED_Sites", .lit (.ofMapping mapping)]) =
        .str "T1_US_FNAL,anywhere,T2_CH_CERN,T2_DE_DESY" := by
  intro sources mapping ad
  have agree := siteMapping_scoped_invert sources ⟨"T2_CH_CERN,T2_DE_DESY"⟩
  have listed : Takes sources "T2_DE_DESY" "T1_US_FNAL" :=
    ⟨["T1_US_FNAL"], by decide +kernel, by decide +kernel⟩
  have value : ad.eval (.named "DESIRED_Sites") = .str "T1_US_FNAL, anywhere" :=
    JobAd.evalAttr_of_lit (by rw [JobAd.get?_assign, if_pos rfl])
  have expanded : mapping.expand "T1_US_FNAL, anywhere" =
      "T1_US_FNAL,anywhere,T2_CH_CERN,T2_DE_DESY" := by decide +kernel
  refine ⟨(agree.2.1 _ _).2 ⟨listed, by decide +kernel⟩, ?_, ?_⟩
  · intro sends
    exact absurd ((agree.2.1 _ _).1 sends).2 (by decide +kernel)
  · rw [← expanded]
    exact agree.2.2.2 ad _ _ value

end RoutingPolicy

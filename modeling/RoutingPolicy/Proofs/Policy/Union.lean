import RoutingPolicy.Policy.Document
import RoutingPolicy.Proofs.Collections.Lookup

/-!
# Unions of what is said of overflow

What two sections say of overflow is put together destination by destination and task by task; the
first counts where both say something. Look-ups tell all of a section, so the union with nothing and
the union with itself are the section.
-/

set_option autoImplicit false

namespace RoutingPolicy

namespace Overflow

theorem get?_mergeModifications (m other : Modifications) (workflow : String) :
    (mergeModifications m other).get? workflow =
      (other.get? workflow).elim (m.get? workflow) fun tasks =>
        some (((m.get? workflow).getD .empty).orElse tasks) := by
  have merged (entries : List (String × SortedMap String TaskModification))
      (ascending : AscendingKeys entries) :
      (entries.foldl (fun m e => m.alter e.1 fun known =>
        some ((known.getD .empty).orElse e.2)) m).get? workflow =
      (SortedMap.lookup workflow entries).elim (m.get? workflow) fun tasks =>
        some (((m.get? workflow).getD .empty).orElse tasks) := by
    induction entries generalizing m with
    | nil => rfl
    | cons entry entries induction =>
        rw [List.foldl_cons, induction _ ascending.of_cons, SortedMap.get?_alter,
          SortedMap.lookup]
        by_cases own : workflow = entry.1
        · have once : SortedMap.lookup entry.1 entries = none :=
            SortedMap.lookup_eq_none_of_lt fun later listed =>
              List.rel_of_pairwise_cons ascending listed
          rw [own, once, if_pos rfl, if_pos Std.compare_self]
          rfl
        · have other : compare workflow entry.1 ≠ .eq := fun same =>
            own (Std.LawfulEqOrd.eq_of_compare same)
          rw [if_neg own, if_neg other]
  exact merged other.entries other.ascending

def sources? (o : Overflow) (destination : String) : Option (List String) :=
  o.reversedMapping.get? destination

def modification? (o : Overflow) (workflow task : String) : Option TaskModification :=
  (o.modifications.get? workflow).bind (·.get? task)

/-- A section says the same if its look-ups do. A workflow without tasks counts. -/
theorem ext_lookups {o o' : Overflow} (sources : ∀ d, o.sources? d = o'.sources? d)
    (workflows : ∀ w, o.modifications.contains w = o'.modifications.contains w)
    (modifications : ∀ w t, o.modification? w t = o'.modification? w t) : o = o' := by
  have mapping : o.reversedMapping = o'.reversedMapping := SortedMap.ext_get? sources
  have tasks : o.modifications = o'.modifications := by
    refine SortedMap.ext_get? fun w => ?_
    have listed := workflows w
    have at_task := modifications w
    rw [SortedMap.contains, SortedMap.contains] at listed
    simp only [modification?] at at_task
    cases found : o.modifications.get? w with
    | none =>
        rw [found] at listed
        exact (Option.isNone_iff_eq_none.1 (by simpa using listed.symm)).symm
    | some known =>
        rw [found] at listed at_task
        obtain ⟨other, found'⟩ := Option.isSome_iff_exists.1 listed.symm
        rw [found'] at at_task ⊢
        exact congrArg some (SortedMap.ext_get? at_task)
  cases o
  cases o'
  cases mapping
  cases tasks
  rfl

variable (o other : Overflow)

theorem sources?_orElse (destination : String) :
    (o.orElse other).sources? destination =
      (o.sources? destination).or (other.sources? destination) :=
  SortedMap.get?_orElse ..

theorem contains_orElse (workflow : String) :
    (o.orElse other).modifications.contains workflow =
      (o.modifications.contains workflow || other.modifications.contains workflow) := by
  simp only [SortedMap.contains, orElse, get?_mergeModifications]
  cases other.modifications.get? workflow with
  | none => exact (Bool.or_false _).symm
  | some tasks => exact (Bool.or_true _).symm

theorem modification?_orElse (workflow task : String) :
    (o.orElse other).modification? workflow task =
      (o.modification? workflow task).or (other.modification? workflow task) := by
  simp only [modification?, orElse, get?_mergeModifications]
  cases other.modifications.get? workflow with
  | none => exact (Option.or_none ..).symm
  | some tasks =>
      rw [Option.elim_some, Option.bind_some, Option.bind_some, SortedMap.get?_orElse]
      cases o.modifications.get? workflow <;> rfl

theorem orElse_empty : o.orElse .empty = o := by
  refine ext_lookups (fun d => ?_) (fun w => ?_) fun w t => ?_
  · exact (sources?_orElse ..).trans (Option.or_none ..)
  · exact (contains_orElse ..).trans (Bool.or_false _)
  · exact (modification?_orElse ..).trans (Option.or_none ..)

theorem empty_orElse : Overflow.empty.orElse o = o := by
  refine ext_lookups (fun d => ?_) (fun w => ?_) fun w t => ?_
  · exact (sources?_orElse ..).trans (Option.none_or ..)
  · exact (contains_orElse ..).trans (Bool.false_or _)
  · exact (modification?_orElse ..).trans (Option.none_or ..)

theorem orElse_self : o.orElse o = o := by
  refine ext_lookups (fun d => ?_) (fun w => ?_) fun w t => ?_
  · exact (sources?_orElse ..).trans (Option.or_self ..)
  · exact (contains_orElse ..).trans (Bool.or_self _)
  · exact (modification?_orElse ..).trans (Option.or_self ..)

end Overflow

end RoutingPolicy

import Mathlib.Data.List.Nodup
import RoutingPolicy.Emit.Format
import RoutingPolicy.Proofs.Rule.Content

/-!
# When directives clash

The directive of a step begins with the kind of the step, and no kind begins another or a fixed
attribute. So directives clash with each other only, and a rule set is written exactly when every
rule has directives that differ in more than the case of letters.
-/

set_option autoImplicit false

namespace RoutingPolicy

open Text

section Repeated

variable {seen names rest : List String} {name : String}

theorem firstRepeated?_cons_of_mem (taken : foldCase name ∈ seen) :
    firstRepeated? seen (name :: rest) = some name := by
  rw [firstRepeated?, List.contains_iff_mem.2 taken, if_pos rfl]

theorem firstRepeated?_cons_of_not_mem (free : foldCase name ∉ seen) :
    firstRepeated? seen (name :: rest) = firstRepeated? (foldCase name :: seen) rest := by
  have untaken : seen.contains (foldCase name) = false := by simpa using free
  rw [firstRepeated?, untaken, if_neg Bool.false_ne_true]

theorem firstRepeated?_eq_none_iff :
    firstRepeated? seen names = none ↔
      (names.map foldCase).Nodup ∧ ∀ name ∈ names, foldCase name ∉ seen := by
  induction names generalizing seen with
  | nil => simp [firstRepeated?]
  | cons name rest induction =>
      rw [List.map_cons, List.nodup_cons, List.forall_mem_cons]
      by_cases taken : foldCase name ∈ seen
      · simp [firstRepeated?_cons_of_mem taken, taken]
      · rw [firstRepeated?_cons_of_not_mem taken, induction]
        constructor
        · intro fresh
          have different : foldCase name ∉ rest.map foldCase := by
            intro again
            rcases List.mem_map.1 again with ⟨later, listed, same⟩
            exact fresh.2 later listed (same ▸ List.mem_cons_self)
          have unseen : ∀ later ∈ rest, foldCase later ∉ seen := fun later listed repeats =>
            fresh.2 later listed (List.mem_cons_of_mem _ repeats)
          exact ⟨⟨different, fresh.1⟩, taken, unseen⟩
        · intro fresh
          refine ⟨fresh.1.2, fun later listed repeats => ?_⟩
          rcases List.mem_cons.1 repeats with same | repeats
          · exact fresh.1.1 (List.mem_map.2 ⟨later, listed, same⟩)
          · exact fresh.2.2 later listed repeats

end Repeated

/-! ### Directives -/

/-- The first letter of a directive tells of which kind the step is. -/
theorem Mutation.head?_foldCase_directive (m : Mutation) :
    (foldCase m.directive).toList.head? = match m with
      | copy .. => some 'c'
      | set .. => some 's'
      | evalSet .. => some 'e'
      | delete _ => some 'd' := by
  cases m <;> simp only [directive, foldCase_append, String.toList_append] <;> rfl

theorem Mutation.foldCase_directive_not_fixed (m : Mutation) :
    foldCase m.directive ∉ fixedAttributes.map foldCase := by
  have kinds : ∀ name ∈ fixedAttributes.map foldCase,
      name.toList.head? ∉ [some 'c', some 's', some 'e', some 'd'] := by decide +kernel
  intro fixed
  apply kinds _ fixed
  rw [m.head?_foldCase_directive]
  cases m <;> simp

namespace Rule

theorem directives_eq (r : Rule) : r.directives = r.steps.map Mutation.directive := by
  rw [directives, steps, List.map_append, List.map_map]
  rfl

theorem disjoint_directives (r : Rule) :
    ∀ directive ∈ r.directives, foldCase directive ∉ fixedAttributes.map foldCase := by
  intro directive listed
  rw [directives_eq] at listed
  rcases List.mem_map.1 listed with ⟨m, _, rfl⟩
  exact m.foldCase_directive_not_fixed

theorem clash?_eq_none_iff (r : Rule) :
    r.clash? = none ↔ (r.directives.map foldCase).Nodup := by
  rw [clash?, firstRepeated?_eq_none_iff]
  exact and_iff_left r.disjoint_directives

theorem nodup_fixedAttributes_append {r : Rule} (distinct : (r.directives.map foldCase).Nodup) :
    ((fixedAttributes ++ r.directives).map foldCase).Nodup := by
  rw [List.map_append, List.nodup_append']
  refine ⟨by decide +kernel, distinct, fun name fixed own => ?_⟩
  rcases List.mem_map.1 own with ⟨directive, listed, rfl⟩
  exact r.disjoint_directives directive listed fixed

end Rule

/-! ### Rule sets -/

namespace RuleSet

variable {s : RuleSet}

theorem validate_eq_ok_iff :
    s.validate = .ok () ↔ ∀ r ∈ s.rules, (r.directives.map foldCase).Nodup := by
  have clear : (s.rules.findSome? fun r =>
      r.clash?.map (EmitError.duplicateDirective r.name)) = none ↔
        ∀ r ∈ s.rules, (r.directives.map foldCase).Nodup := by
    simp only [List.findSome?_eq_none_iff, Option.map_eq_none_iff, Rule.clash?_eq_none_iff]
  rw [← clear, validate]
  cases s.rules.findSome? fun r => r.clash?.map (EmitError.duplicateDirective r.name) <;> simp

theorem render_of_validate (valid : s.validate = .ok ()) (format : RuleFormat) :
    s.render format = .ok (match format with
      | .ads => s.ads
      | .json => s.documentText) := by
  unfold render
  rw [valid]
  rfl

theorem fingerprint_of_validate (valid : s.validate = .ok ()) :
    s.fingerprint = .ok ("sha256:" ++ Sha256.hexDigest s.ads) := by
  rw [fingerprint, render_of_validate valid]
  rfl

end RuleSet

end RoutingPolicy

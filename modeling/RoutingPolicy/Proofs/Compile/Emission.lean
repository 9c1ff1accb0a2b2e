import RoutingPolicy.Proofs.Compile.Writes
import RoutingPolicy.Proofs.Emit.Clash

/-!
# Compiled rules can be written

What the policy says enters the conditions, the values and the names of rules, but not the names of
their directives, except for the marker of a site and the flag of a reset. So the directives of a
rule are those of a sample of its family, where a finite check shows them distinct. The marker of a
site is none of the attributes in the sample, and a reset adds the flag of routing only where it is
not the flag that it resets in another spelling. Hence every compiled rule set can be written, in
either format, and has a fingerprint.
-/

namespace RoutingPolicy

set_option autoImplicit false

open Text Compile Compile.Overflow Compile.Hold Compile.Ranking Compile.Correction

namespace Family

/-- A rule of the family, where the directives are the same for all its rules. -/
def sample? : Family → Option Rule
  | replacement => some (replacementRule "" [])
  | master => some (masterRule ⟨⟨""⟩, .empty, ⟨.empty⟩⟩ (.bool true))
  | sort => some sortRule
  | correction => some correctionRule
  | memory => some (Tuning.memory.rule 0 (.bool true))
  | time => some (Tuning.time.rule 0 (.bool true))
  | slope => some (Tuning.slope.rule 0 (.bool true))
  | read => some (Tuning.read.rule 0 (.bool true))
  | resize => some (ResizePolicy.rule ⟨0, 0, 0⟩ (.bool true))
  | hold => some (holdTasksRule .standard (.bool true))
  | release => some (releaseTasksRule (.bool true))
  | raise => some (raiseRule .standard (.bool true))
  | drain => some (drainRule .standard "")
  | memoryFix => some (memoryRule 0 0)
  | t0Memory => some t0MemoryRule
  | t0Spill => some t0SpillRule
  | multicore => some multicoreRule
  | wallTime => some wallTimeRule
  | holdSite => none
  | releaseSite => none
  | reset => none

theorem nodup_sample : ∀ f ∈ all, ∀ sample ∈ f.sample?,
    (sample.directives.map foldCase).Nodup := by
  decide +kernel

end Family

/-! ### Flags that depend on the policy -/

theorem MarkerUpdate.nodup_complete_singleton (m : MarkerUpdate) :
    ((complete [m]).map fun update => foldCase update.directive).Nodup := by
  unfold complete
  split
  · exact List.nodup_singleton _
  · next other =>
      have unlike : foldCase m.flag ≠ foldCase Marker.hasBeenRouted := by
        simpa [isRouting, Marker.isSame, sameIgnoringCase] using other
      simpa [directive, foldCase_append_left_inj] using unlike

/-- A flag clashes with no change that is not of its own kind. -/
theorem Rule.nodup_directives_make {category : Category} {name : String} {guard : List Expr}
    {mutations : List Mutation} (m : MarkerUpdate)
    (distinct : (mutations.map fun step => foldCase step.directive).Nodup)
    (unset : ∀ step ∈ mutations, (foldCase step.directive).toList.head? ≠ some 's') :
    ((make category name guard mutations [m]).directives.map foldCase).Nodup := by
  rw [directives, List.map_append, List.map_map, List.map_map, List.nodup_append']
  refine ⟨distinct, m.nodup_complete_singleton, fun name changed marked => ?_⟩
  rcases List.mem_map.1 changed with ⟨step, listed, rfl⟩
  rcases List.mem_map.1 marked with ⟨update, _, same⟩
  have written : foldCase update.step.directive = foldCase step.directive := same
  apply unset step listed
  rw [← written, Mutation.head?_foldCase_directive]
  rfl

namespace Compile

theorem Hold.nodup_directives_holdSiteRule (site : SiteName) :
    ((holdSiteRule site).directives.map foldCase).Nodup := by
  have distinct : (["copy_DESIRED_Sites", "eval_set_DESIRED_Sites"].map foldCase).Nodup := by
    decide +kernel
  refine Rule.nodup_directives_make _ distinct fun step listed => ?_
  simp only [List.mem_cons, List.not_mem_nil, or_false] at listed
  rcases listed with rfl | rfl <;> rw [Mutation.head?_foldCase_directive] <;> simp

theorem Hold.nodup_directives_releaseSiteRule (site : SiteName) :
    ((releaseSiteRule site).directives.map foldCase).Nodup := by
  have distinct : (["copy_DESIRED_Sites", "eval_set_DESIRED_Sites",
      "delete_Releasing_DESIRED_Sites"].map foldCase).Nodup := by
    decide +kernel
  refine Rule.nodup_directives_make _ distinct fun step listed => ?_
  simp only [List.mem_cons, List.not_mem_nil, or_false] at listed
  rcases listed with rfl | rfl | rfl <;> rw [Mutation.head?_foldCase_directive] <;> simp

theorem Correction.nodup_directives_resetRule (flag : String) :
    ((resetRule flag).directives.map foldCase).Nodup :=
  Rule.nodup_directives_make _ List.nodup_nil fun _ listed => absurd listed List.not_mem_nil

end Compile

/-! ### All rules -/

namespace Policy

variable {p : Policy} {options : CompileOptions} {f : Family} {r : Rule}

theorem Makes.directives_eq (makes : p.Makes options f r) {sample : Rule}
    (sampled : f.sample? = some sample) : r.directives = sample.directives := by
  cases makes with
  | tuning tuned _ _ =>
      rcases of_mem_tunings tuned with ⟨rfl, rfl, _⟩ | ⟨rfl, rfl, _⟩ | ⟨rfl, rfl, _⟩ |
        ⟨rfl, rfl, _⟩ <;> cases sampled <;> rfl
  | fix _ listed =>
      rcases of_mem_fixes listed with ⟨rfl, rfl⟩ | ⟨rfl, rfl⟩ | ⟨rfl, rfl⟩ | ⟨rfl, rfl⟩ |
        ⟨rfl, rfl⟩ | ⟨rfl, rfl⟩ <;> cases sampled <;> rfl
  | _ => cases sampled <;> rfl

theorem Makes.nodup_directives (makes : p.Makes options f r) :
    (r.directives.map foldCase).Nodup := by
  cases sampled : f.sample? with
  | some sample =>
      rw [makes.directives_eq sampled]
      exact Family.nodup_sample f f.mem_all sample sampled
  | none =>
      cases makes with
      | holdSite _ => exact nodup_directives_holdSiteRule _
      | releaseSite _ => exact nodup_directives_releaseSiteRule _
      | reset _ => exact nodup_directives_resetRule _
      | tuning tuned _ _ =>
          rcases of_mem_tunings tuned with ⟨rfl, _, _⟩ | ⟨rfl, _, _⟩ | ⟨rfl, _, _⟩ |
            ⟨rfl, _, _⟩ <;> cases sampled
      | fix _ listed =>
          rcases of_mem_fixes listed with ⟨rfl, _⟩ | ⟨rfl, _⟩ | ⟨rfl, _⟩ | ⟨rfl, _⟩ | ⟨rfl, _⟩ |
            ⟨rfl, _⟩ <;> cases sampled
      | _ => cases sampled

theorem nodup_directives_of_mem_compile (compiled : r ∈ (p.compile options).rules.rules) :
    (r.directives.map foldCase).Nodup := by
  rcases mem_compile_iff.1 compiled with ⟨f, makes⟩
  exact makes.nodup_directives

theorem validate_compile (p : Policy) (options : CompileOptions) :
    (p.compile options).rules.validate = .ok () :=
  RuleSet.validate_eq_ok_iff.2 fun _ compiled => nodup_directives_of_mem_compile compiled

/-- Whatever compiles can be emitted: no rule has two directives, or a directive and a fixed
attribute, that are the same up to case, so both formats and the fingerprint succeed. -/
theorem compiled_can_be_emitted (p : Policy) (options : CompileOptions) :
    (∀ r ∈ (p.compile options).rules.rules,
      ((fixedAttributes ++ r.directives).map foldCase).Nodup) ∧
      (p.compile options).rules.validate = .ok () ∧
        (∀ format, ∃ text, (p.compile options).rules.render format = .ok text) ∧
          ∃ digest, (p.compile options).rules.fingerprint = .ok digest := by
  have valid : (p.compile options).rules.validate = .ok () :=
    RuleSet.validate_eq_ok_iff.2 fun r compiled => nodup_directives_of_mem_compile compiled
  refine ⟨fun r compiled => ?_, valid, fun format => ?_, ?_⟩
  · exact Rule.nodup_fixedAttributes_append (nodup_directives_of_mem_compile compiled)
  · exact ⟨_, RuleSet.render_of_validate valid format⟩
  · exact ⟨_, RuleSet.fingerprint_of_validate valid⟩

end Policy

end RoutingPolicy

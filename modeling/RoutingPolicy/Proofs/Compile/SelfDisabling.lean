import RoutingPolicy.Proofs.Compile.Writes

/-!
# Compiled rules disable themselves

Every compiled rule has a latch: a marker, the priority of draining agents, or the value that a
fixed correction puts in the place of a wrong one. So no rule matches the ad that it leaves behind,
however the attributes of the ad were bound before, and the router looks at the job again. For most
families the latch is the same for all rules and stands in a table; a rule on a site, a reset and a
correction of memory have latches of their own.
-/

namespace RoutingPolicy

set_option autoImplicit false

open Compile Compile.Overflow Compile.Hold Compile.Ranking Compile.Correction

/-! ### Latches of families -/

def Family.latch? (options : CompileOptions) : Family → Option Latch
  | replacement => some ⟨Marker.hasBeenReplaced, .bool true⟩
  | master => some ⟨Marker.hasBeenRoutedOverflow, .bool true⟩
  | sort => some ⟨Marker.hasBeenSorted, .bool true⟩
  | correction => some ⟨Marker.hasPrioCorrection, .bool true⟩
  | memory => some ⟨Marker.hasBeenMemoryTuned, .bool true⟩
  | time => some ⟨Marker.hasBeenTimingTuned, .bool true⟩
  | slope => some ⟨Marker.hasBeenSlopeTuned, .bool true⟩
  | read => some ⟨Marker.hasBeenReadTuned, .bool true⟩
  | resize => some ⟨Marker.resizeJob, .bool true⟩
  | hold => some ⟨Marker.hasBeenSetHeld, .bool true⟩
  | release => some ⟨Marker.hasBeenSetHeld, .bool false⟩
  | raise => some ⟨Marker.hasBeenRaisedHighPrio, .bool true⟩
  | drain => some ⟨Attribute.jobPrio, .int options.drainPrio⟩
  | t0Memory => some ⟨Attribute.originalMemory, .int t0MemoryCap⟩
  | t0Spill => some ⟨Marker.outOfT0, .bool true⟩
  | multicore => some ⟨Attribute.desiredSites, .str "T1_ES_PIC,T2_ES_CIEMAT"⟩
  | wallTime => some ⟨Attribute.originalMaxWallTime, .int kitWallTimeCap⟩
  | memoryFix => none
  | holdSite => none
  | releaseSite => none
  | reset => none

theorem Comparison.order_int_self_ne_true {op : OrderOp} {i : Int64}
    (strict : op.holds .eq = false) :
    (Comparison.order op).apply (.int i) (.int i) ≠ .bool true := by
  simp [apply, Value.strict?, Value.isError, Value.isUndefined, Value.order?, Value.ofBool?, strict]

theorem Tuning.latches_rule (t : Tuning) (threshold : Int64) (selector : Expr) :
    (t.rule threshold selector).Latches ⟨t.marker, .bool true⟩ :=
  Rule.latches_make_true (a := .plain t.marker) (by simp) rfl

namespace Compile

theorem Hold.latches_holdSiteRule (site : SiteName) :
    (holdSiteRule site).Latches ⟨Marker.heldFrom site, .bool true⟩ :=
  Rule.latches_make_true (a := .plain (Marker.heldFrom site)) (by simp) rfl

theorem Hold.latches_releaseSiteRule (site : SiteName) :
    (releaseSiteRule site).Latches ⟨Marker.heldFrom site, .bool false⟩ :=
  Rule.latches_make_false (a := .plain (Marker.heldFrom site)) (by simp) rfl

theorem Correction.latches_resetRule (flag : String) :
    (resetRule flag).Latches ⟨flag, .bool false⟩ :=
  Rule.latches_make_false (a := .plain flag) (by simp) rfl

theorem Correction.latches_memoryRule {wrong right : Int64} (different : right ≠ wrong) :
    (memoryRule wrong right).Latches ⟨Attribute.originalMemory, .int right⟩ := by
  apply Rule.latches_make_value List.mem_cons_self rfl
  · simp [Comparison.apply, Value.identical, different]
  · simp
  · exact Family.unrouted_writers (by simp [Family.writers])

theorem Correction.latches_t0MemoryRule :
    t0MemoryRule.Latches ⟨Attribute.originalMemory, .int t0MemoryCap⟩ := by
  apply Rule.latches_make_value List.mem_cons_self rfl
  · exact Comparison.order_int_self_ne_true rfl
  · simp
  · exact Family.unrouted_writers (by simp [Family.writers])

theorem Correction.latches_multicoreRule :
    multicoreRule.Latches ⟨Attribute.desiredSites, .str "T1_ES_PIC,T2_ES_CIEMAT"⟩ := by
  have different : Text.sameIgnoringCase "T1_ES_PIC,T2_ES_CIEMAT" "T2_ES_IFCA" = false := by
    simp [Text.sameIgnoringCase_eq_false_iff, ← String.toList_inj]
  apply Rule.latches_make_value List.mem_cons_self rfl
  · rw [Comparison.apply_equal_str, different]
    simp
  · simp
  · exact Family.unrouted_writers (by simp [Family.writers])

theorem Correction.latches_wallTimeRule :
    wallTimeRule.Latches ⟨Attribute.originalMaxWallTime, .int kitWallTimeCap⟩ := by
  apply Rule.latches_make_value (List.mem_cons_of_mem _ List.mem_cons_self) rfl
  · exact Comparison.order_int_self_ne_true rfl
  · intro m member
    obtain rfl := List.mem_singleton.1 member
    simp [Mutation.target, Text.sameIgnoringCase_eq_false_iff, ← String.toList_inj,
      Attribute.estimatedSingleCoreMins, Attribute.originalMaxWallTime]
  · exact Family.unrouted_writers (by simp [Family.writers])

theorem Ranking.latches_drainRule (options : CompileOptions) (agent : String) :
    (drainRule options agent).Latches ⟨Attribute.jobPrio, .int options.drainPrio⟩ := by
  apply Rule.latches_make_value
    (List.mem_cons_of_mem _ (List.mem_cons_of_mem _ List.mem_cons_self)) rfl
  · exact Comparison.order_int_self_ne_true rfl
  · simp
  · exact Family.unrouted_writers (by simp [Family.writers])

end Compile

namespace Policy

variable {p : Policy} {options : CompileOptions} {f : Family} {r : Rule}

theorem Makes.latches {latch : Latch} (makes : p.Makes options f r)
    (shared : f.latch? options = some latch) : r.Latches latch := by
  cases makes with
  | tuning tuned _ _ =>
      rcases of_mem_tunings tuned with ⟨rfl, rfl, _⟩ | ⟨rfl, rfl, _⟩ | ⟨rfl, rfl, _⟩ |
        ⟨rfl, rfl, _⟩ <;>
        cases shared <;> exact Tuning.latches_rule _ _ _
  | fix _ listed =>
      rcases of_mem_fixes listed with ⟨rfl, rfl⟩ | ⟨rfl, rfl⟩ | ⟨rfl, rfl⟩ | ⟨rfl, rfl⟩ |
        ⟨rfl, rfl⟩ | ⟨rfl, rfl⟩
      · cases shared
      · cases shared
      · cases shared
        exact latches_t0MemoryRule
      · cases shared
        exact Rule.latches_make_true (List.mem_cons_of_mem _ List.mem_cons_self) rfl
      · cases shared
        exact latches_multicoreRule
      · cases shared
        exact latches_wallTimeRule
  | drain _ _ =>
      cases shared
      exact latches_drainRule _ _
  | resize _ _ =>
      cases shared
      apply Rule.latches_make_flag List.mem_cons_self rfl
      simp [Comparison.apply, Value.identical]
  | release _ =>
      cases shared
      exact Rule.latches_make_false List.mem_cons_self rfl
  | replacement _ _ _ _ =>
      cases shared
      exact Rule.latches_make_true List.mem_cons_self rfl
  | master _ _ _ =>
      cases shared
      exact Rule.latches_make_true (List.mem_cons_of_mem _ List.mem_cons_self) rfl
  | sort _ =>
      cases shared
      exact Rule.latches_make_true (a := .target Marker.hasBeenSorted) (by simp) rfl
  | correction =>
      cases shared
      exact Rule.latches_make_true List.mem_cons_self rfl
  | hold _ =>
      cases shared
      exact Rule.latches_make_true List.mem_cons_self rfl
  | raise _ =>
      cases shared
      exact Rule.latches_make_true List.mem_cons_self rfl
  | holdSite _ => cases shared
  | releaseSite _ => cases shared
  | reset _ => cases shared

theorem Makes.exists_latch (makes : p.Makes options f r) : ∃ latch, r.Latches latch := by
  cases shared : f.latch? options with
  | some latch => exact ⟨latch, makes.latches shared⟩
  | none =>
      cases makes with
      | holdSite _ => exact ⟨_, latches_holdSiteRule _⟩
      | releaseSite _ => exact ⟨_, latches_releaseSiteRule _⟩
      | reset _ => exact ⟨_, latches_resetRule _⟩
      | tuning _ _ _ => exact ⟨_, Tuning.latches_rule _ _ _⟩
      | fix _ listed =>
          rcases of_mem_fixes listed with ⟨rfl, rfl⟩ | ⟨rfl, rfl⟩ | ⟨rfl, rfl⟩ | ⟨rfl, rfl⟩ |
            ⟨rfl, rfl⟩ |
            ⟨rfl, rfl⟩
          · exact ⟨_, latches_memoryRule (by decide)⟩
          · exact ⟨_, latches_memoryRule (by decide)⟩
          all_goals cases shared
      | _ => cases shared

theorem Makes.clears_routed (makes : p.Makes options f r) (ad : JobAd) :
    (r.apply ad).get? Marker.hasBeenRouted = some (.lit (.bool false)) := by
  have unrouted : ∀ flag ∈ Family.writers.map Prod.fst,
      Text.sameIgnoringCase flag Marker.hasBeenRouted = false := by
    intro flag listed
    rw [Text.sameIgnoringCase_comm]
    exact Family.unrouted_writers listed
  cases makes with
  | @holdSite site _ =>
      have routed : Marker.isHeldFrom Marker.hasBeenRouted = false :=
        Family.isHeldFrom_writes (f := .holdSite) List.mem_cons_self
      apply Rule.get?_apply_make_unrouted
      exact Marker.sameIgnoringCase_of_isHeldFrom (Marker.isHeldFrom_heldFrom site) routed
  | tuning tuned _ _ =>
      rcases of_mem_tunings tuned with ⟨rfl, rfl, _⟩ | ⟨rfl, rfl, _⟩ | ⟨rfl, rfl, _⟩ |
        ⟨rfl, rfl, _⟩ <;>
        exact Rule.get?_apply_make_unrouted ad (unrouted _ (by simp [Family.writers, Tuning.memory,
          Tuning.time, Tuning.slope, Tuning.read]))
  | fix _ listed =>
      rcases of_mem_fixes listed with ⟨rfl, rfl⟩ | ⟨rfl, rfl⟩ | ⟨rfl, rfl⟩ | ⟨rfl, rfl⟩ |
        ⟨rfl, rfl⟩ | ⟨rfl, rfl⟩
      case inr.inr.inr.inl =>
        exact Rule.get?_apply_make_unrouted ad (unrouted _ (by simp [Family.writers]))
      all_goals exact Rule.get?_apply_make_routed ad (by simp)
  | drain _ _ => exact Rule.get?_apply_make_routed ad (by simp)
  | releaseSite _ => exact Rule.get?_apply_make_routed ad (by simp)
  | reset _ => exact Rule.get?_apply_make_routed ad (by simp)
  | _ => exact Rule.get?_apply_make_unrouted ad (unrouted _ (by simp [Family.writers]))

/-- No compiled rule is true of the ad that it leaves, whether or not it matched before, and the job
is looked at again. -/
theorem guard_false_after_apply (p : Policy) (options : CompileOptions) (r : Rule)
    (member : r ∈ (p.compile options).rules.rules) (ad : JobAd) :
    r.guard.eval (r.apply ad) ≠ .bool true ∧
      (r.apply ad).evalAttr Marker.hasBeenRouted = .bool false := by
  obtain ⟨f, makes⟩ := mem_compile_iff.1 member
  obtain ⟨latch, latches⟩ := makes.exists_latch
  constructor
  · have unmatched := latches.disabled ad
    rw [Rule.matchesAd, Guard.holds, Bool.eq_false_iff, Ne, Value.isTrue_iff] at unmatched
    exact unmatched
  · exact JobAd.evalAttr_of_lit (makes.clears_routed ad)

/-- A reset of the flag of routing itself, in another spelling, on a job where the flag refers to
another attribute. -/
theorem guard_false_after_reset_of_routing :
    let rule := resetRule "hasbeenrouted"
    let ad := JobAd.empty.bind Marker.hasBeenRouted (.named Marker.hasBeenSorted)
    rule ∈ ({ empty with resetRouting := ["hasbeenrouted"] }.compile .standard).rules.rules ∧
      rule.guard.eval (rule.apply ad) ≠ .bool true ∧
        (rule.apply ad).evalAttr Marker.hasBeenRouted = .bool false := by
  intro rule ad
  have member : rule ∈
      ({ empty with resetRouting := ["hasbeenrouted"] }.compile .standard).rules.rules := by
    apply mem_compile_iff.2
    exact ⟨.reset, .reset (by decide +kernel)⟩
  exact ⟨member, guard_false_after_apply _ _ rule member ad⟩

end Policy

end RoutingPolicy

import RoutingPolicy.Proofs.Router.Firing

/-!
# Runs in parts

What a run may do is described without the router: it fires rules one after the other, each the
first in order that matches the ad at that moment, and it stops short of its limit only where none
matches. Exactly one list of rules and one ad are a run of a given limit. Since runs in this sense
can be put one behind the other, a run is the same as two runs in sequence that share its limit,
wherever the limit is split: before the ad has settled, as it settles, or after.
-/

set_option autoImplicit false

namespace RoutingPolicy

namespace RuleSet

variable {s : RuleSet} {r : Rule} {ad between after : JobAd} {fired fired' : List Rule}
  {limit limit' : Nat}

/-! ### Rules that fire one after the other -/

def IsFirstMatch (s : RuleSet) (ad : JobAd) (r : Rule) : Prop :=
  ∃ earlier later, s.rules = earlier ++ r :: later ∧ r.matchesAd ad = true ∧
    ∀ q ∈ earlier, q.matchesAd ad = false

def MatchesNone (s : RuleSet) (ad : JobAd) : Prop := ∀ r ∈ s.rules, r.matchesAd ad = false

/-- Firing the rules in order, each while it is the first that matches, leads from one ad to
another. -/
inductive Leads (s : RuleSet) : JobAd → List Rule → JobAd → Prop
  | stay (ad : JobAd) : Leads s ad [] ad
  | fire {ad : JobAd} {r : Rule} {rest : List Rule} {after : JobAd} (first : s.IsFirstMatch ad r)
    (later : Leads s (r.apply ad) rest after) : Leads s ad (r :: rest) after

theorem firstMatch?_eq_some_iff : s.firstMatch? ad = some r ↔ s.IsFirstMatch ad r := by
  rw [firstMatch?, List.find?_eq_some_iff_append, IsFirstMatch]
  simp only [Bool.not_eq_true']
  constructor
  · intro found
    rcases found with ⟨fits, earlier, later, split, none⟩
    exact ⟨earlier, later, split, fits, none⟩
  · intro found
    rcases found with ⟨earlier, later, split, fits, none⟩
    exact ⟨fits, earlier, later, split, none⟩

theorem firstMatch?_eq_none_iff : s.firstMatch? ad = none ↔ s.MatchesNone ad := by
  rw [← Option.isNone_iff_eq_none, firstMatch?_isNone_iff, MatchesNone]

theorem Leads.append (first : s.Leads ad fired between) (second : s.Leads between fired' after) :
    s.Leads ad (fired ++ fired') after := by
  induction first with
  | stay ad => exact second
  | fire opening _ induction => exact .fire opening (induction second)

theorem Leads.eq_nil_of_matchesNone (leads : s.Leads ad fired after) (settled : s.MatchesNone ad) :
    fired = [] ∧ after = ad := by
  cases leads with
  | stay => exact ⟨rfl, rfl⟩
  | fire first later =>
      rw [← firstMatch?_eq_some_iff, firstMatch?_eq_none_iff.2 settled] at first
      cases first

/-! ### Runs -/

/-- The rules lead to the ad and are no more than allowed; fewer only where no rule matches. -/
structure IsRun (s : RuleSet) (limit : Nat) (ad : JobAd) (fired : List Rule) (after : JobAd) :
    Prop where
  leads : s.Leads ad fired after
  bounded : fired.length ≤ limit
  maximal : fired.length < limit → s.MatchesNone after

/-- A run behind a run is a run of both limits together. If the first has stopped short of its
limit, then nothing is left for the second to fire. -/
theorem IsRun.append (first : s.IsRun limit ad fired between)
    (second : s.IsRun limit' between fired' after) :
    s.IsRun (limit + limit') ad (fired ++ fired') after where
  leads := first.leads.append second.leads
  bounded := by
    have firstBound := first.bounded
    have secondBound := second.bounded
    rw [List.length_append]
    omega
  maximal := by
    intro short
    rw [List.length_append] at short
    by_cases early : fired.length < limit
    · have settled := first.maximal early
      rw [(second.leads.eq_nil_of_matchesNone settled).2]
      exact settled
    · exact second.maximal (by omega)

theorem isRun_firedRules (s : RuleSet) (limit : Nat) (ad : JobAd) :
    s.IsRun limit ad (s.firedRules limit ad) (s.run limit ad).2 := by
  induction limit generalizing ad with
  | zero => exact ⟨.stay ad, le_rfl, nofun⟩
  | succ limit induction =>
      cases first : s.firstMatch? ad with
      | none =>
          rw [firedRules_of_unmatched first, run_of_unmatched first]
          exact ⟨.stay ad, Nat.zero_le _, fun _ => firstMatch?_eq_none_iff.1 first⟩
      | some r =>
          have rest := induction (r.apply ad)
          rw [firedRules_of_firstMatch? first, run_of_firstMatch? first]
          exact ⟨.fire (firstMatch?_eq_some_iff.1 first) rest.leads,
            Nat.succ_le_succ rest.bounded, fun short => rest.maximal (Nat.lt_of_succ_lt_succ short)⟩

theorem IsRun.eq_firedRules (isRun : s.IsRun limit ad fired after) :
    fired = s.firedRules limit ad ∧ after = (s.run limit ad).2 := by
  rcases isRun with ⟨leads, bounded, maximal⟩
  induction leads generalizing limit with
  | stay ad =>
      cases limit with
      | zero => exact ⟨rfl, rfl⟩
      | succ limit =>
          have unmatched := firstMatch?_eq_none_iff.2 (maximal (Nat.succ_pos limit))
          rw [firedRules_of_unmatched unmatched, run_of_unmatched unmatched]
          exact ⟨rfl, rfl⟩
  | @fire ad r rest after first _ induction =>
      cases limit with
      | zero => exact absurd bounded (Nat.not_succ_le_zero _)
      | succ limit =>
          have found := firstMatch?_eq_some_iff.2 first
          have later := induction (Nat.le_of_succ_le_succ bounded)
            fun short => maximal (Nat.succ_lt_succ short)
          rw [firedRules_of_firstMatch? found, run_of_firstMatch? found]
          exact ⟨congrArg (r :: ·) later.1, later.2⟩

/-- A run is its first part followed by a run on the ad that this part leaves. It fires as many
rules as allowed at most, each the first match of its ad, and it has converged if and only if no
rule matches the ad that is left. -/
theorem run_add (s : RuleSet) (ad : JobAd) (n m : Nat) :
    let first := s.run n ad
    let second := s.run m first.2
    (s.firedRules (n + m) ad = s.firedRules n ad ++ s.firedRules m first.2 ∧
      s.run (n + m) ad = (⟨first.1.fired ++ second.1.fired, second.1.converged⟩, second.2)) ∧
    (first.1.fired = (s.firedRules n ad).map (·.name) ∧
      s.IsRun n ad (s.firedRules n ad) first.2) ∧
    (first.1.converged = true ↔ s.MatchesNone first.2) := by
  intro first second
  have firstIsRun : s.IsRun n ad (s.firedRules n ad) first.2 := s.isRun_firedRules n ad
  have secondIsRun : s.IsRun m first.2 (s.firedRules m first.2) second.2 :=
    s.isRun_firedRules m first.2
  rcases (firstIsRun.append secondIsRun).eq_firedRules with ⟨rules, left⟩
  refine ⟨⟨rules.symm, Prod.ext ?_ left.symm⟩, ⟨s.fired_run n ad, firstIsRun⟩, ?_⟩
  · have names : (s.run (n + m) ad).1.fired = first.1.fired ++ second.1.fired := by
      rw [fired_run, fired_run, fired_run, ← rules, List.map_append]
    have flag : (s.run (n + m) ad).1.converged = second.1.converged := by
      rw [converged_run, ← left, converged_run]
    rw [← names, ← flag]
  · rw [converged_run]
    exact firstMatch?_isNone_iff

end RuleSet

end RoutingPolicy

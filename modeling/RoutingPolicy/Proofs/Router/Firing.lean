import RoutingPolicy.Proofs.Rule.Latch
import RoutingPolicy.Router.Run

/-!
# What runs apply, and whether they end

A run is known from the rules that it applies one after the other. Rules that are spent by the first
of them, and stay so, are applied once at most, whichever of them it is; rules that share a latch
which no other rule opens are of that kind. If every rule that matches closes a latch of a list and
opens only later ones, then the open latches, read as the digits of a binary number, go down with
each cycle, so the run ends. If a property of ads survives every rule and always lets some rule
match, no run ends.
-/

namespace RoutingPolicy

set_option autoImplicit false

/-! ### Cycles -/

namespace RuleSet

variable {s : RuleSet} {r : Rule} {ad after : JobAd}

def firedRules (s : RuleSet) : Nat → JobAd → List Rule
  | 0, _ => []
  | limit + 1, ad =>
      match s.cycle? ad with
      | none => []
      | some (r, after) => r :: s.firedRules limit after

theorem firstMatch?_isNone_iff :
    (s.firstMatch? ad).isNone = true ↔ ∀ r ∈ s.rules, r.matchesAd ad = false := by
  simp [firstMatch?]

theorem cycle?_eq_none_iff : s.cycle? ad = none ↔ ∀ r ∈ s.rules, r.matchesAd ad = false := by
  rw [← firstMatch?_isNone_iff, cycle?, Option.map_eq_none_iff, Option.isNone_iff_eq_none]

theorem of_cycle?_eq_some (fires : s.cycle? ad = some (r, after)) :
    r ∈ s.rules ∧ r.matchesAd ad = true ∧ after = r.apply ad := by
  obtain ⟨first, found, pair⟩ := Option.map_eq_some_iff.1 fires
  obtain ⟨rfl, rfl⟩ := Prod.mk.inj pair
  rw [firstMatch?] at found
  have fits := List.find?_some found
  exact ⟨List.mem_of_find?_eq_some found, fits, rfl⟩

theorem fired_run (s : RuleSet) (limit : Nat) (ad : JobAd) :
    (s.run limit ad).1.fired = (s.firedRules limit ad).map (·.name) := by
  induction limit generalizing ad with
  | zero => rfl
  | succ limit induction =>
      simp only [run, firedRules]
      cases s.cycle? ad with
      | none => rfl
      | some fired => exact congrArg (fired.1.name :: ·) (induction fired.2)

theorem of_firstMatch?_eq_some (first : s.firstMatch? ad = some r) :
    r ∈ s.rules ∧ r.matchesAd ad = true := by
  have fires : s.cycle? ad = some (r, r.apply ad) := by
    rw [cycle?, first]
    rfl
  obtain ⟨member, fits, _⟩ := of_cycle?_eq_some fires
  exact ⟨member, fits⟩

theorem firedRules_of_firstMatch? (first : s.firstMatch? ad = some r) (limit : Nat) :
    s.firedRules (limit + 1) ad = r :: s.firedRules limit (r.apply ad) := by
  rw [firedRules, cycle?, first]
  rfl

theorem firedRules_of_unmatched (unmatched : s.firstMatch? ad = none) (limit : Nat) :
    s.firedRules limit ad = [] := by
  cases limit with
  | zero => rfl
  | succ limit =>
      rw [firedRules, cycle?, unmatched]
      rfl

theorem run_of_firstMatch? (first : s.firstMatch? ad = some r) (limit : Nat) :
    s.run (limit + 1) ad =
      let (trace, after) := s.run limit (r.apply ad)
      (⟨r.name :: trace.fired, trace.converged⟩, after) := by
  rw [run, cycle?, first]
  rfl

theorem run_of_unmatched (unmatched : s.firstMatch? ad = none) (limit : Nat) :
    s.run limit ad = (⟨[], true⟩, ad) := by
  cases limit with
  | zero =>
      rw [run, unmatched]
      rfl
  | succ limit =>
      rw [run, cycle?, unmatched]
      rfl

/-! ### Rules that are applied once at most -/

/-- Of ads that have a property which every cycle keeps, a picked rule leaves spent ones. Those stay
spent, and no picked rule matches them. -/
structure Spends (s : RuleSet) (picks : Rule → Bool) (Tracked Spent : JobAd → Prop) : Prop where
  kept : ∀ r ad, s.firstMatch? ad = some r → Tracked ad → Tracked (r.apply ad)
  spends : ∀ r ad, s.firstMatch? ad = some r → Tracked ad → picks r = true → Spent (r.apply ad)
  stays : ∀ r ad, s.firstMatch? ad = some r → Tracked ad → Spent ad →
    picks r = false ∧ Spent (r.apply ad)

variable {picks : Rule → Bool} {Tracked Spent : JobAd → Prop} {latch : Latch}

theorem Spends.countP_firedRules_eq_zero (spends : s.Spends picks Tracked Spent) (limit : Nat)
    {ad : JobAd} (tracked : Tracked ad) (spent : Spent ad) :
    (s.firedRules limit ad).countP picks = 0 := by
  induction limit generalizing ad with
  | zero => rfl
  | succ limit induction =>
      cases first : s.firstMatch? ad with
      | none =>
          rw [firedRules_of_unmatched first]
          rfl
      | some r =>
          obtain ⟨unpicked, after⟩ := spends.stays r ad first tracked spent
          rw [firedRules_of_firstMatch? first, List.countP_cons_of_neg (by simp [unpicked])]
          exact induction (spends.kept r ad first tracked) after

theorem Spends.countP_firedRules_le_one (spends : s.Spends picks Tracked Spent) (limit : Nat)
    {ad : JobAd} (tracked : Tracked ad) : (s.firedRules limit ad).countP picks ≤ 1 := by
  induction limit generalizing ad with
  | zero => simp [firedRules]
  | succ limit induction =>
      cases first : s.firstMatch? ad with
      | none => simp [firedRules_of_unmatched first]
      | some r =>
          have later := spends.kept r ad first tracked
          rw [firedRules_of_firstMatch? first]
          by_cases picked : picks r = true
          · have spent := spends.spends r ad first tracked picked
            rw [List.countP_cons_of_pos picked, spends.countP_firedRules_eq_zero limit later spent]
          · rw [List.countP_cons_of_neg picked]
            exact induction later

/-- The picked rules share a latch, and no other rule writes its attribute. -/
structure SharesLatch (s : RuleSet) (picks : Rule → Bool) (latch : Latch) : Prop where
  latched : ∀ r ∈ s.rules, picks r = true → r.Latches latch
  kept : ∀ r ∈ s.rules, picks r = false → r.writes latch.attr = false

theorem SharesLatch.spends (shares : s.SharesLatch picks latch) :
    s.Spends picks (fun _ => True) latch.Closed where
  kept _ _ _ _ := trivial
  spends := by
    intro r ad first _ picked
    exact (shares.latched r (of_firstMatch?_eq_some first).1 picked).closes ad
  stays := by
    intro r ad first _ closed
    obtain ⟨member, fits⟩ := of_firstMatch?_eq_some first
    have unpicked : picks r = false := by
      rw [Bool.eq_false_iff]
      intro picked
      exact (shares.latched r member picked).not_closed fits closed
    exact ⟨unpicked, Rule.closed_apply_of_not_writes (shares.kept r member unpicked) closed⟩

theorem SharesLatch.countP_firedRules_le_one (shares : s.SharesLatch picks latch) (limit : Nat)
    (ad : JobAd) : (s.firedRules limit ad).countP picks ≤ 1 :=
  shares.spends.countP_firedRules_le_one limit trivial

theorem mem_rules_of_mem_firedRules {limit : Nat} (fired : r ∈ s.firedRules limit ad) :
    r ∈ s.rules := by
  induction limit generalizing ad with
  | zero => cases fired
  | succ limit induction =>
      cases first : s.firstMatch? ad with
      | none =>
          rw [firedRules_of_unmatched first] at fired
          cases fired
      | some own =>
          rw [firedRules_of_firstMatch? first] at fired
          rcases List.mem_cons.1 fired with rfl | later
          · exact (of_firstMatch?_eq_some first).1
          · exact induction later

end RuleSet

/-! ### Runs that end -/

/-- The rule closes a latch of the list that is open, and opens none before it. -/
def Rule.Advances (r : Rule) (latches : List Latch) (ad : JobAd) : Prop :=
  ∃ before latch later, latches = before ++ latch :: later ∧ ¬ latch.Closed ad ∧
    latch.Closed (r.apply ad) ∧ ∀ l ∈ before, l.Closed ad → l.Closed (r.apply ad)

namespace Rule

variable {r : Rule} {latches later : List Latch} {ad : JobAd}

/-- A rule that matches advances a list with a latch of it, if it keeps all others of the list. -/
theorem advances_of_mem {latch : Latch} (latched : r.Latches latch) (member : latch ∈ latches)
    (fits : r.matchesAd ad = true) (kept : ∀ l ∈ latches, l.Closed ad → l.Closed (r.apply ad)) :
    r.Advances (latches ++ later) ad := by
  obtain ⟨before, behind, rfl⟩ := List.append_of_mem member
  refine ⟨before, latch, behind ++ later, by simp, latched.not_closed fits, latched.closes ad, ?_⟩
  intro l earlier
  exact kept l (List.mem_append_left _ earlier)

theorem Advances.append (advances : r.Advances later ad)
    (kept : ∀ l ∈ latches, l.Closed ad → l.Closed (r.apply ad)) :
    r.Advances (latches ++ later) ad := by
  obtain ⟨before, latch, behind, rfl, opened, closed, keeps⟩ := advances
  refine ⟨latches ++ before, latch, behind, by simp, opened, closed, ?_⟩
  intro l earlier
  rcases List.mem_append.1 earlier with first | second
  · exact kept l first
  · exact keeps l second

end Rule

namespace Latch

open Classical in
/-- The open latches as a binary number, the first latch as the leading digit. -/
noncomputable def openRank : List Latch → JobAd → Nat
  | [], _ => 0
  | latch :: rest, ad => (if latch.Closed ad then 0 else 2 ^ rest.length) + openRank rest ad

theorem openRank_lt (latches : List Latch) (ad : JobAd) :
    openRank latches ad < 2 ^ latches.length := by
  induction latches with
  | nil => simp [openRank]
  | cons latch rest induction =>
      simp only [openRank, List.length_cons, Nat.pow_succ]
      split <;> omega

theorem openRank_apply_lt {r : Rule} {latches : List Latch} {ad : JobAd}
    (advances : r.Advances latches ad) : openRank latches (r.apply ad) < openRank latches ad := by
  obtain ⟨before, latch, later, rfl, opened, closed, kept⟩ := advances
  induction before with
  | nil =>
      have bound := openRank_lt later (r.apply ad)
      simp only [List.nil_append, openRank, if_pos closed, if_neg opened]
      omega
  | cons first before induction =>
      have rest := induction fun l member => kept l (List.mem_cons_of_mem _ member)
      have head := kept first List.mem_cons_self
      simp only [List.cons_append, openRank]
      by_cases shut : first.Closed ad
      · rw [if_pos shut, if_pos (head shut)]
        omega
      · have weight := Nat.two_pow_pos (before ++ latch :: later).length
        rw [if_neg shut]
        split <;> omega

end Latch

namespace RuleSet

variable {s : RuleSet} {Holds : JobAd → Prop}

theorem converged_of_openRank_le {latches : List Latch}
    (kept : ∀ r ∈ s.rules, ∀ ad, Holds ad → r.matchesAd ad = true → Holds (r.apply ad))
    (advances : ∀ r ∈ s.rules, ∀ ad, Holds ad → r.matchesAd ad = true → r.Advances latches ad)
    {limit : Nat} {ad : JobAd} (start : Holds ad) (bound : Latch.openRank latches ad ≤ limit) :
    (s.run limit ad).1.converged = true := by
  induction limit generalizing ad with
  | zero =>
      rw [run, firstMatch?_isNone_iff]
      intro r member
      rw [Bool.eq_false_iff]
      intro fits
      have smaller := Latch.openRank_apply_lt (advances r member ad start fits)
      omega
  | succ limit induction =>
      simp only [run]
      cases fires : s.cycle? ad with
      | none => rfl
      | some fired =>
          obtain ⟨r, after⟩ := fired
          obtain ⟨member, fits, rfl⟩ := of_cycle?_eq_some fires
          have smaller := Latch.openRank_apply_lt (advances r member ad start fits)
          exact induction (kept r member ad start fits) (by omega)

/-- Where every rule that matches advances the same list of latches, all long runs converge. -/
theorem exists_bound_converged {latches : List Latch}
    (kept : ∀ r ∈ s.rules, ∀ ad, Holds ad → r.matchesAd ad = true → Holds (r.apply ad))
    (advances : ∀ r ∈ s.rules, ∀ ad, Holds ad → r.matchesAd ad = true → r.Advances latches ad)
    {ad : JobAd} (start : Holds ad) :
    ∃ bound, ∀ limit, bound ≤ limit → (s.run limit ad).1.converged = true := by
  refine ⟨2 ^ latches.length, ?_⟩
  intro limit bound
  apply converged_of_openRank_le kept advances start
  exact (Latch.openRank_lt latches ad).le.trans bound

theorem not_converged
    (kept : ∀ r ∈ s.rules, ∀ ad, Holds ad → r.matchesAd ad = true → Holds (r.apply ad))
    (enabled : ∀ ad, Holds ad → ∃ r ∈ s.rules, r.matchesAd ad = true)
    (limit : Nat) {ad : JobAd} (start : Holds ad) : (s.run limit ad).1.converged = false := by
  induction limit generalizing ad with
  | zero =>
      obtain ⟨r, member, fits⟩ := enabled ad start
      rw [run, Bool.eq_false_iff, Ne, firstMatch?_isNone_iff]
      intro none
      rw [none r member] at fits
      cases fits
  | succ limit induction =>
      simp only [run]
      cases fires : s.cycle? ad with
      | none =>
          obtain ⟨r, member, fits⟩ := enabled ad start
          rw [cycle?_eq_none_iff.1 fires r member] at fits
          cases fits
      | some fired =>
          obtain ⟨r, after⟩ := fired
          obtain ⟨member, fits, rfl⟩ := of_cycle?_eq_some fires
          exact induction (kept r member ad start fits)

/-! ### What runs leave -/

/-- What every cycle keeps, of the ad and of the rules applied so far, holds of the ad that a run
leaves and of the rules that it applies. -/
theorem holds_traced_run {Holds : List Rule → JobAd → Prop}
    (kept : ∀ fired r ad, s.firstMatch? ad = some r → Holds fired ad →
      Holds (fired ++ [r]) (r.apply ad))
    (limit : Nat) (fired : List Rule) {ad : JobAd} (start : Holds fired ad) :
    Holds (fired ++ s.firedRules limit ad) (s.run limit ad).2 := by
  induction limit generalizing fired ad with
  | zero => rwa [firedRules, List.append_nil]
  | succ limit induction =>
      cases first : s.firstMatch? ad with
      | none => rwa [firedRules_of_unmatched first, run_of_unmatched first, List.append_nil]
      | some r =>
          rw [firedRules_of_firstMatch? first, run_of_firstMatch? first, List.append_cons]
          exact induction _ (kept fired r ad first start)

theorem holds_run
    (kept : ∀ r ad, s.firstMatch? ad = some r → Holds ad → Holds (r.apply ad))
    (limit : Nat) {ad : JobAd} (start : Holds ad) : Holds (s.run limit ad).2 := by
  let Tracked : List Rule → JobAd → Prop := fun _ => Holds
  have tracked : Tracked ([] ++ s.firedRules limit ad) (s.run limit ad).2 :=
    holds_traced_run (fun _ => kept) limit [] start
  exact tracked

theorem converged_run (s : RuleSet) (limit : Nat) (ad : JobAd) :
    (s.run limit ad).1.converged = (s.firstMatch? (s.run limit ad).2).isNone := by
  induction limit generalizing ad with
  | zero => rfl
  | succ limit induction =>
      cases first : s.firstMatch? ad with
      | none => simp [run_of_unmatched first, first]
      | some r =>
          rw [run_of_firstMatch? first]
          exact induction (r.apply ad)

theorem not_matchesAd_of_converged {limit : Nat} {ad : JobAd}
    (converged : (s.run limit ad).1.converged = true) :
    ∀ r ∈ s.rules, r.matchesAd (s.run limit ad).2 = false := by
  rw [converged_run] at converged
  exact firstMatch?_isNone_iff.1 converged

end RuleSet

end RoutingPolicy

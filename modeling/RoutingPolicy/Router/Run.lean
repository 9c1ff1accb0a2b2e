import RoutingPolicy.Rule.Basic

/-!
# Dry runs

A run repeats cycles on the ad of one job. A cycle applies the first rule that matches, if one does.
The run ends when no rule matches or when a given number of rules was applied; it converged when no
rule matches the ad that is left.
-/

set_option autoImplicit false

namespace RoutingPolicy

structure Trace where
  /-- The names of the rules that were applied, in order. -/
  fired : List String
  converged : Bool
  deriving DecidableEq

def Trace.cycles (t : Trace) : Nat := t.fired.length

namespace RuleSet

def firstMatch? (s : RuleSet) (ad : JobAd) : Option Rule := s.rules.find? (·.matchesAd ad)

def cycle? (s : RuleSet) (ad : JobAd) : Option (Rule × JobAd) :=
  (s.firstMatch? ad).map fun r => (r, r.apply ad)

/-- Repeats cycles until no rule matches or so many rules were applied. -/
def run (s : RuleSet) : Nat → JobAd → Trace × JobAd
  | 0, ad => (⟨[], (s.firstMatch? ad).isNone⟩, ad)
  | limit + 1, ad =>
    match s.cycle? ad with
    | none => (⟨[], true⟩, ad)
    | some (r, ad) =>
      let (trace, ad) := s.run limit ad
      (⟨r.name :: trace.fired, trace.converged⟩, ad)

end RuleSet

end RoutingPolicy

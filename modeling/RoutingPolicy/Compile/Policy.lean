import RoutingPolicy.Compile.Correction
import RoutingPolicy.Compile.Hold
import RoutingPolicy.Compile.Overflow
import RoutingPolicy.Compile.Ranking
import RoutingPolicy.Compile.Tuning

/-!
# Compilation of policies

A policy is compiled category by category. Compilation always succeeds: what cannot become a sound
rule is left out and reported.
-/

set_option autoImplicit false

namespace RoutingPolicy

structure Skipped where
  category : Category
  reason : SkipReason
  deriving DecidableEq

def Skipped.message (fault : String → String) (s : Skipped) : String :=
  s.category.name ++ ": " ++ s.reason.message fault

structure Compilation where
  /-- The rules, in the order in which they are tried. -/
  rules : RuleSet
  /-- What was left out, in the order in which it was found. -/
  skipped : List Skipped

def Compilation.counts (c : Compilation) : List (Category × Nat) :=
  (Category.emissionOrder.map fun category =>
      (category, (c.rules.ofCategory category).length)).filter
    fun count => 0 < count.2

namespace Policy

def entries (p : Policy) (options : CompileOptions) : Category → List Compiled
  | .overflow => p.overflow.compile
  | .sortWhitelist => Compile.Correction.sort options
  | .priorityCorrection => [.rule Compile.Ranking.correctionRule]
  | .memory => Tuning.memory.compile p.memory
  | .time => Tuning.time.compile p.time
  | .slope => Tuning.slope.compile p.slope
  | .resize => ResizePolicy.compile p.resizing
  | .read => Tuning.read.compile p.read
  | .hold => p.compileHold options
  | .release => p.compileRelease
  | .holdSite => p.compileHoldSite
  | .releaseSite => p.compileReleaseSite
  | .priorityRaise => Compile.Ranking.raise options p.highprio
  | .drain => Compile.Ranking.drain options p.speedDrain
  | .adHoc => Compile.Correction.adhoc options
  | .reset => Compile.Correction.reset p.resetRouting

def compile (p : Policy) (options : CompileOptions) : Compilation where
  rules := ⟨Category.emissionOrder.flatMap fun c => Compiled.rules (p.entries options c)⟩
  skipped := Category.emissionOrder.flatMap fun c =>
    (Compiled.reasons (p.entries options c)).map fun reason => ⟨c, reason⟩

end Policy

end RoutingPolicy

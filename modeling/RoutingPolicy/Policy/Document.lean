import RoutingPolicy.Policy.Threshold
import RoutingPolicy.Site.Mapping

/-!
# Policies

A policy says in thirteen sections how jobs are to be routed. Every section may be empty.
-/

set_option autoImplicit false

namespace RoutingPolicy

structure TaskModification where
  added : Option (List String)
  /-- Sites that take the place of the whitelist, if the policy says so. -/
  replacement : Option (List String)
  deriving DecidableEq

abbrev Modifications := SortedMap String (SortedMap String TaskModification)

structure Overflow where
  /-- The sources that each destination takes jobs from. -/
  reversedMapping : SourcesByDestination
  modifications : Modifications
  deriving DecidableEq

namespace Overflow

def empty : Overflow := ⟨.empty, .empty⟩

def isEmpty (o : Overflow) : Bool := o.reversedMapping.isEmpty && o.modifications.isEmpty

/-- The modifications of both, task by task; for a task in both, those of `m` count. -/
def mergeModifications (m other : Modifications) : Modifications :=
  other.entries.foldl
    (fun m (workflow, tasks) =>
      m.alter workflow fun known => some ((known.getD .empty).orElse tasks)) m

/-- What either says; where both say something of one destination or of one task, the first
counts. -/
def orElse (o other : Overflow) : Overflow where
  reversedMapping := o.reversedMapping.orElse other.reversedMapping
  modifications := mergeModifications o.modifications other.modifications

end Overflow

structure ResizePolicy where
  minCores : Int64
  maxCores : Int64
  memoryPerThread : Int64
  deriving DecidableEq

namespace ResizePolicy

open Std

/-- Compares the fewest cores, then the most cores, then the memory. -/
def order : ResizePolicy → ResizePolicy → Ordering :=
  compareLex (compareOn (·.minCores)) <| compareLex (compareOn (·.maxCores)) <|
    compareOn (·.memoryPerThread)

instance : Ord ResizePolicy := ⟨order⟩

instance : TransOrd ResizePolicy := inferInstanceAs (TransCmp (compareLex _ _))

instance : LawfulEqOrd ResizePolicy where
  eq_of_compare {a b} h := by
    replace h : order a b = .eq := h
    simp only [order, compareLex_eq_eq, compareOn, Std.compare_eq_iff_eq] at h
    obtain ⟨hmin, hmax, hmemory⟩ := h
    cases a; cases b; simp_all

end ResizePolicy

structure Policy where
  overflow : Overflow
  resizing : SortedMap String ResizePolicy
  read : ThresholdMap
  memory : ThresholdMap
  time : ThresholdMap
  slope : ThresholdMap
  /-- Tasks to be held, with sites that do not matter. -/
  hold : SortedMap String (List String)
  release : SortedSet String
  holdSite : List String
  releaseSite : List String
  highprio : List String
  /-- Patterns for agents whose idle jobs come first. -/
  speedDrain : List String
  resetRouting : List String

namespace Policy

def isEmpty (p : Policy) : Bool :=
  p.overflow.isEmpty && p.resizing.isEmpty && p.read.isEmpty && p.memory.isEmpty &&
    p.time.isEmpty && p.slope.isEmpty && p.hold.isEmpty && p.release.isEmpty &&
    p.holdSite.isEmpty && p.releaseSite.isEmpty && p.highprio.isEmpty &&
    p.speedDrain.isEmpty && p.resetRouting.isEmpty

end Policy

end RoutingPolicy

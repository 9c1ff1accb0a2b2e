import RoutingPolicy.Site.Whitelist
import RoutingPolicy.Collections.SortedMap

/-!
# Overflow mappings

A policy says for a destination from which sources it takes jobs. What a job needs is the inverse:
the destinations that a site of its whitelist may overflow to. A group of tasks narrows the
destinations down to its own whitelist.
-/

set_option autoImplicit false

namespace RoutingPolicy

/-- The sources of every destination, in the order of the policy. -/
abbrev SourcesByDestination := SortedMap String (List String)

structure DestinationMap where
  bySource : SortedMap String (SortedSet String)
  deriving DecidableEq

namespace DestinationMap

def empty : DestinationMap := ⟨.empty⟩

def add (destinations : DestinationMap) (source destination : String) : DestinationMap :=
  ⟨destinations.bySource.alter source fun known => some ((known.getD .empty).insert destination)⟩

def pairs (sources : SourcesByDestination) : List (String × String) :=
  sources.entries.flatMap fun (destination, listed) =>
    listed.map fun source => (source, destination)

def invert (sources : SourcesByDestination) : DestinationMap :=
  (pairs sources).foldl
    (fun destinations (source, destination) => destinations.add source destination) empty

def get? (destinations : DestinationMap) (source : String) : Option (SortedSet String) :=
  destinations.bySource.get? source

def size (destinations : DestinationMap) : Nat := destinations.bySource.size

def isEmpty (destinations : DestinationMap) : Bool := destinations.bySource.isEmpty

end DestinationMap

/-- The destinations of every source within one whitelist. -/
structure ScopedMapping where
  /-- The destinations by source, ascending; none is empty. -/
  bySource : SortedMap String (List String)
  deriving DecidableEq

namespace ScopedMapping

def get? (mapping : ScopedMapping) (source : String) : Option (List String) :=
  mapping.bySource.get? source

def size (mapping : ScopedMapping) : Nat := mapping.bySource.size

def isEmpty (mapping : ScopedMapping) : Bool := mapping.bySource.isEmpty

def expand (mapping : ScopedMapping) (list : String) : String :=
  SiteList.expand (fun source => (mapping.get? source).getD []) list

end ScopedMapping

/-- The destinations that belong to the whitelist. A source without such a destination is left
out. -/
def DestinationMap.scoped (destinations : DestinationMap) (whitelist : Whitelist) :
    ScopedMapping where
  bySource := destinations.bySource.filterMap fun _ known =>
    let kept := known.toList.filter whitelist.contains
    if kept.isEmpty then none else some kept

end RoutingPolicy

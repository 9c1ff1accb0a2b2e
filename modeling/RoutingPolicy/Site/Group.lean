import RoutingPolicy.Site.Mapping

/-!
# Groups of tasks with one whitelist

Tasks whose additional sites form the same whitelist are grouped. A task belongs to one group at
most: the first whitelist with a usable site decides, and later ones are reported and ignored.
-/

set_option autoImplicit false

namespace RoutingPolicy

structure WhitelistGroups where
  groups : SortedMap Whitelist (SortedSet String)
  claimed : SortedMap String Whitelist

namespace WhitelistGroups

inductive Outcome where
  | added (whitelist : Whitelist)
  | duplicate (existing : Whitelist)
  | emptyWhitelist
  deriving DecidableEq

def empty : WhitelistGroups := ⟨.empty, .empty⟩

def insert (groups : WhitelistGroups) (task : String) (sites : List String) :
    WhitelistGroups × Outcome :=
  match groups.claimed.get? task with
  | some existing => (groups, .duplicate existing)
  | none =>
    match Whitelist.canonical? sites with
    | none => (groups, .emptyWhitelist)
    | some whitelist =>
      (⟨groups.groups.alter whitelist fun tasks => some ((tasks.getD .empty).insert task),
        groups.claimed.insert task whitelist⟩, .added whitelist)

def size (groups : WhitelistGroups) : Nat := groups.groups.size

def isEmpty (groups : WhitelistGroups) : Bool := groups.groups.isEmpty

end WhitelistGroups

/-- Tasks with one whitelist, and the destinations within it. -/
structure SiteMapGroup where
  whitelist : Whitelist
  tasks : SortedSet String
  /-- The destinations within the whitelist, by source. -/
  mapping : ScopedMapping

/-- Every group with its share of the destinations, in the order of the whitelists. -/
def WhitelistGroups.withMapping (groups : WhitelistGroups) (destinations : DestinationMap) :
    List SiteMapGroup :=
  groups.groups.entries.map fun (whitelist, tasks) =>
    ⟨whitelist, tasks, destinations.scoped whitelist⟩

end RoutingPolicy

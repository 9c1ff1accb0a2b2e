import RoutingPolicy.Ad.Guard
import RoutingPolicy.Rule.Category
import RoutingPolicy.Rule.Marker

/-!
# Rules

A rule changes the ad of a job that its guard holds for: first its mutations take effect, one after
the other, and then its markers are set. Every rule sets the marker that makes the router look at
the job again; `Rule.make` adds it where it is not set already.
-/

set_option autoImplicit false

namespace RoutingPolicy

inductive Mutation where
  /-- Binds `destination` to what `source` is bound to, if it is bound. -/
  | copy (source destination : String)
  | set (attr : String) (e : Expr)
  /-- Binds an attribute to the value that an expression has now. -/
  | evalSet (attr : String) (e : Expr)
  | delete (attr : String)

namespace Mutation

def directive : Mutation → String
  | copy source _ => "copy_" ++ source
  | set attr _ => "set_" ++ attr
  | evalSet attr _ => "eval_set_" ++ attr
  | delete attr => "delete_" ++ attr

def apply (m : Mutation) (ad : JobAd) : JobAd :=
  match m with
  | copy source destination => match ad.get? source with
    | some e => ad.bind destination e
    | none => ad
  | set attr e => ad.bind attr e
  | evalSet attr e => ad.assign attr (ad.eval e)
  | delete attr => ad.erase attr

end Mutation

structure MarkerUpdate where
  flag : String
  value : Bool
  deriving DecidableEq

namespace MarkerUpdate

def directive (m : MarkerUpdate) : String := "set_" ++ m.flag

def apply (m : MarkerUpdate) (ad : JobAd) : JobAd := ad.assign m.flag (.bool m.value)

def isRouting (m : MarkerUpdate) : Bool := Marker.isSame m.flag Marker.hasBeenRouted

def complete (updates : List MarkerUpdate) : List MarkerUpdate :=
  if updates.any isRouting then updates else updates ++ [⟨Marker.hasBeenRouted, false⟩]

theorem any_isRouting_complete (updates : List MarkerUpdate) :
    (complete updates).any isRouting = true := by
  unfold complete
  split
  · assumption
  · rw [List.any_append, Bool.or_eq_true]
    right
    decide +kernel

end MarkerUpdate

structure Rule where
  name : String
  category : Category
  guard : Guard
  mutations : List Mutation
  /-- The flags that it sets, in order, after all changes. -/
  markers : List MarkerUpdate
  routing : markers.any MarkerUpdate.isRouting = true

namespace Rule

/-- The rule with the given parts, and with the marker that makes the router look at the job
again. -/
def make (category : Category) (name : String) (guard : List Expr) (mutations : List Mutation)
    (markers : List MarkerUpdate) : Rule where
  name := name
  category := category
  guard := ⟨guard⟩
  mutations := mutations
  markers := MarkerUpdate.complete markers
  routing := MarkerUpdate.any_isRouting_complete markers

def matchesAd (r : Rule) (ad : JobAd) : Bool := r.guard.holds ad

def apply (r : Rule) (ad : JobAd) : JobAd :=
  r.markers.foldl (fun ad m => m.apply ad) (r.mutations.foldl (fun ad m => m.apply ad) ad)

/-- The names of the directives of the mutations, then of the markers. -/
def directives (r : Rule) : List String :=
  r.mutations.map Mutation.directive ++ r.markers.map MarkerUpdate.directive

end Rule

structure RuleSet where
  rules : List Rule

namespace RuleSet

def empty : RuleSet := ⟨[]⟩

def size (s : RuleSet) : Nat := s.rules.length

def isEmpty (s : RuleSet) : Bool := s.rules.isEmpty

def ofCategory (s : RuleSet) (c : Category) : List Rule := s.rules.filter (·.category == c)

def get? (s : RuleSet) (name : String) : Option Rule := s.rules.find? (·.name == name)

end RuleSet

end RoutingPolicy

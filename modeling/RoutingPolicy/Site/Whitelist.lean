import RoutingPolicy.Site.List

/-!
# Whitelists

A set of sites is written as the ascending list of its members. The written form stands for the set:
two whitelists with the same members have the same text, whatever order, repetition and spacing they
came with. A whitelist has at least one member.
-/

set_option autoImplicit false

namespace RoutingPolicy

open Std

/-- A set of sites in its written form. -/
structure Whitelist where
  text : String
  deriving DecidableEq

instance : Ord Whitelist := ⟨fun a b => compare a.text b.text⟩

instance : TransOrd Whitelist where
  eq_swap {a b} := @OrientedCmp.eq_swap String compare _ a.text b.text
  isLE_trans {a b c} := @TransCmp.isLE_trans String compare _ a.text b.text c.text

instance : LawfulEqOrd Whitelist where
  compare_self {a} := @ReflCmp.compare_self String compare _ a.text
  eq_of_compare {a b} h := by
    cases a; cases b
    exact congrArg _ (LawfulEqOrd.eq_of_compare (α := String) h)

namespace Whitelist

/-- The whitelist of the given sites, if one of them is not blank. -/
def canonical? (sites : List String) : Option Whitelist :=
  let members := SortedSet.ofList (Text.nonblank sites)
  if members.isEmpty then none else some ⟨SiteList.join members.toList⟩

def sites (whitelist : Whitelist) : List String :=
  (whitelist.text.toList.splitOnP (· == ',')).map String.ofList

def contains (whitelist : Whitelist) (site : String) : Bool := whitelist.sites.contains site

end Whitelist

end RoutingPolicy

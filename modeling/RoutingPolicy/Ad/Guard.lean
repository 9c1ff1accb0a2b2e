import RoutingPolicy.Ad.Eval

/-!
# Guards

A guard is a conjunction of conditions on an ad. It holds when the conjunction is exactly true: a
guard that is undefined or error does not hold, and an empty guard does. There is no disjunction,
and no negation but that of a flag or of a comparison.
-/

set_option autoImplicit false

namespace RoutingPolicy

namespace Expr

/-- The attribute equals one of the items, which are listed ascending, each once. Without items
there is no condition, since it could never hold. -/
def memberOf? (a : AttrRef) (items : List String) : Option Expr :=
  let set := SortedSet.ofList items
  if set.isEmpty then none else some (member (attr a) (lit (.ofStrings set.toList)))

def matchesRegex (pattern : String) (a : AttrRef) : Expr := regexp pattern (attr a)

def flagIsTrue (a : AttrRef) : Expr := compare .identical (attr a) (bool true)

def flagIsNotTrue (a : AttrRef) : Expr := compare .distinct (attr a) (bool true)

def compareTo (comparison : Comparison) (a : AttrRef) (v : Value) : Expr :=
  compare comparison (attr a) (lit v)

end Expr

structure Guard where
  clauses : List Expr

namespace Guard

def empty : Guard := ⟨[]⟩

def also (g : Guard) (clause : Expr) : Guard := ⟨g.clauses ++ [clause]⟩

def isEmpty (g : Guard) : Bool := g.clauses.isEmpty

/-- The conjunction as one expression, joined from the left. -/
def expr (g : Guard) : Expr :=
  match g.clauses with
  | [] => .bool true
  | first :: rest => rest.foldl .both first

def render (g : Guard) : String := g.expr.render

def eval (g : Guard) (ad : JobAd) : Value := ad.eval g.expr

def holds (g : Guard) (ad : JobAd) : Bool := (g.eval ad).isTrue

end Guard

end RoutingPolicy

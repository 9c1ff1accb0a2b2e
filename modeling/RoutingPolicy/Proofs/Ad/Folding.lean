import RoutingPolicy.Ad.Eval

/-!
# Minus signs that belong to a number

The text of a number below zero begins with a minus sign, as does that of the negation of a number
without one, so the two may look alike. Folding writes the sign into the number wherever it can,
from the operands up, and takes nothing from the value of an expression.
-/

set_option autoImplicit false

namespace RoutingPolicy

namespace Value

/-- The negative of a number without a sign. There is only one NaN, and it has none. -/
def negative? : Value → Option Value
  | int i => if 0 ≤ i.toInt then some (int (-i)) else none
  | real (.finite false m) => some (real (.finite true m))
  | real (.infinite false) => some (real (.infinite true))
  | _ => none

theorem neg?_of_nonneg {i : Int64} (nonneg : 0 ≤ i.toInt) : Integer.neg? i = some (-i) := by
  have bounded := i.toInt_lt
  rw [Integer.neg?, Integer.ofInt?_eq_some_iff, Int64.toInt_neg]
  exact Int.bmod_eq_of_le (by omega) (by omega)

theorem negate_of_negative? {v w : Value} (negative : v.negative? = some w) : v.negate = w := by
  unfold negative? at negative
  split at negative
  · next i =>
    split at negative
    · next nonneg =>
      cases negative
      rw [negate, neg?_of_nonneg nonneg, ofInt?]
    · cases negative
  · cases negative
    rfl
  · cases negative
    rfl
  · cases negative

end Value

namespace Expr

def negated : Expr → Expr
  | lit v => match v.negative? with
    | some w => lit w
    | none => neg (lit v)
  | e => neg e

mutual

/-- The expression with every minus sign that can belong to a number in the number. -/
def folded : Expr → Expr
  | lit v => lit v
  | attr a => attr a
  | neg e => negated (folded e)
  | binary op left right => binary op (folded left) (folded right)
  | member item list => member (folded item) (folded list)
  | regexp pattern target => regexp pattern (folded target)
  | call f args => call f (foldedAll args)
  | cond condition yes no => cond (folded condition) (folded yes) (folded no)

def foldedAll : List Expr → List Expr
  | [] => []
  | e :: rest => folded e :: foldedAll rest

end

theorem foldedAll_eq_map (args : List Expr) : foldedAll args = args.map folded := by
  induction args with
  | nil => rfl
  | cons e rest induction => rw [foldedAll, induction, List.map_cons]

theorem evalIn_negated (read : String → Value) (e : Expr) :
    evalIn read (negated e) = (evalIn read e).negate := by
  unfold negated
  split
  · next v =>
    split
    · next w negative => simp only [evalIn, Value.negate_of_negative? negative]
    · simp only [evalIn]
  · simp only [evalIn]

mutual

theorem evalIn_folded (read : String → Value) : ∀ e : Expr, evalIn read (folded e) = evalIn read e
  | lit _ => rfl
  | attr _ => rfl
  | neg e => by rw [folded, evalIn_negated, evalIn_folded read e, evalIn]
  | binary (.arithmetic _) left right => by
    rw [folded, evalIn, evalIn, evalIn_folded read left, evalIn_folded read right]
  | binary (.compare _) left right => by
    rw [folded, evalIn, evalIn, evalIn_folded read left, evalIn_folded read right]
  | binary .both left right => by
    rw [folded, evalIn, evalIn, evalIn_folded read left, evalIn_folded read right]
  | member item list => by
    rw [folded, evalIn, evalIn, evalIn_folded read item, evalIn_folded read list]
  | regexp pattern target => by rw [folded, evalIn, evalIn, evalIn_folded read target]
  | call f args => by rw [folded, evalIn, evalIn, evalAll_foldedAll read args]
  | cond condition yes no => by
    rw [folded, evalIn, evalIn, evalIn_folded read condition, evalIn_folded read yes,
      evalIn_folded read no]

theorem evalAll_foldedAll (read : String → Value) :
    ∀ args : List Expr, evalAll read (foldedAll args) = evalAll read args
  | [] => rfl
  | e :: rest => by
    rw [foldedAll, evalAll, evalAll, evalIn_folded read e, evalAll_foldedAll read rest]

end

end Expr

theorem JobAd.eval_folded (ad : JobAd) (e : Expr) : ad.eval e.folded = ad.eval e :=
  Expr.evalIn_folded _ e

end RoutingPolicy

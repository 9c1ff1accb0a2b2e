import Mathlib
import RoutingPolicy.Ad.Eval

/-!
# Arithmetic on integers

The integers of an ad have 64 bits, and arithmetic on them is exact or error. What an expression is
worth in integers of any size is defined without regard to these bits. Its value is that integer
where each of its parts has one that 64 bits hold; as soon as one part has none it is error, even if
the whole would fit again. The exact value of an expression is composed of those of its operands in
the same way as its result is of theirs, so one induction on the expression settles both cases.
-/

set_option autoImplicit false

namespace RoutingPolicy

/-! ### Checked arithmetic as evaluation -/

@[simp] theorem Value.ofInt?_eq_int_iff {result : Option Int64} {v : Int64} :
    ofInt? result = int v ↔ result = some v := by
  cases result <;> simp [ofInt?]

namespace JobAd

variable {ad : JobAd} {left right : Expr} {a b : Option Int64}

theorem eval_arithmetic (op : ArithmeticOp) (leftValue : ad.eval left = .ofInt? a)
    (rightValue : ad.eval right = .ofInt? b) :
    ad.eval (.binary (.arithmetic op) left right) =
      .ofInt? (a.bind fun x => b.bind fun y => op.onIntegers x y) := by
  have value : ad.eval (.binary (.arithmetic op) left right) =
      ((ad.eval left).strict? (ad.eval right)).getD (op.apply (ad.eval left) (ad.eval right)) := rfl
  rw [value, leftValue, rightValue]
  cases a <;> cases b <;> rfl

theorem eval_neg (value : ad.eval left = .ofInt? a) :
    ad.eval (-left) = .ofInt? (a.bind Integer.neg?) := by
  have negated : ad.eval (-left) = (ad.eval left).negate := rfl
  rw [negated, value]
  cases a <;> rfl

end JobAd

/-! ### Integers of any size -/

theorem Integer.exists_toInt_iff {z : Int} :
    (∃ v : Int64, v.toInt = z) ↔ -2 ^ 63 ≤ z ∧ z < 2 ^ 63 := by
  constructor
  · intro held
    rcases held with ⟨v, rfl⟩
    exact ⟨v.le_toInt, v.toInt_lt⟩
  · intro bounds
    exact ⟨Int64.ofInt z, Int64.toInt_ofInt_of_le bounds.1 bounds.2⟩

/-- The operation on integers of any size. Division cuts off toward zero, and by zero it has no
result. -/
def ArithmeticOp.unbounded? : ArithmeticOp → Int → Int → Option Int
  | add, x, y => some (x + y)
  | sub, x, y => some (x - y)
  | mul, x, y => some (x * y)
  | div, x, y => if y = 0 then none else some (x.tdiv y)

theorem ArithmeticOp.onIntegers_eq_some_iff {op : ArithmeticOp} {a b v : Int64} :
    op.onIntegers a b = some v ↔ op.unbounded? a.toInt b.toInt = some v.toInt := by
  cases op with
  | div =>
      have zero : b = 0 ↔ b.toInt = 0 := Int64.toInt_inj.symm
      simp only [onIntegers, Integer.div?, unbounded?, zero]
      split
      · simp
      · rw [Integer.ofInt?_eq_some_iff, Option.some.injEq, eq_comm]
  | _ => exact Integer.ofInt?_eq_some_iff.trans (by rw [unbounded?, Option.some.injEq, eq_comm])

namespace Expr

mutual

/-- The expression and all expressions that it is made of. -/
def parts : Expr → List Expr
  | lit v => [lit v]
  | attr a => [attr a]
  | neg e => neg e :: parts e
  | binary op left right => binary op left right :: (parts left ++ parts right)
  | member item elements => member item elements :: (parts item ++ parts elements)
  | regexp pattern target => regexp pattern target :: parts target
  | call f args => call f args :: partsOfAll args
  | cond condition yes no => cond condition yes no :: (parts condition ++ parts yes ++ parts no)

def partsOfAll : List Expr → List Expr
  | [] => []
  | e :: rest => parts e ++ partsOfAll rest

end

theorem self_mem_parts (e : Expr) : e ∈ e.parts := by
  cases e <;> simp [parts]

end Expr

namespace JobAd

/-- The value in integers of any size of an expression of literals, attributes that are bound to
literals, and arithmetic. -/
def exactValue? (ad : JobAd) : Expr → Option Int
  | .lit (.int i) => some i.toInt
  | .attr a => match ad.get? a.name with
    | some (.lit (.int i)) => some i.toInt
    | _ => none
  | .neg e => (ad.exactValue? e).map fun x => -x
  | .binary (.arithmetic op) left right =>
    (ad.exactValue? left).bind fun x => (ad.exactValue? right).bind fun y => op.unbounded? x y
  | _ => none

/-- The expression has an exact value, and 64 bits hold it. -/
def Fits (ad : JobAd) (e : Expr) : Prop := ∃ z ∈ ad.exactValue? e, -2 ^ 63 ≤ z ∧ z < 2 ^ 63

def FitsThroughout (ad : JobAd) (e : Expr) : Prop := ∀ part ∈ e.parts, ad.Fits part

instance (ad : JobAd) (e : Expr) : Decidable (ad.Fits e) :=
  inferInstanceAs (Decidable (∃ z ∈ ad.exactValue? e, -2 ^ 63 ≤ z ∧ z < 2 ^ 63))

instance (ad : JobAd) (e : Expr) : Decidable (ad.FitsThroughout e) :=
  inferInstanceAs (Decidable (∀ part ∈ e.parts, ad.Fits part))

/-- The expression is made of integers, attributes that are bound to integers, and arithmetic. -/
inductive OfIntegers (ad : JobAd) : Expr → Prop
  | int (i : Int64) : OfIntegers ad (.int i)
  | attr {a : AttrRef} {i : Int64} (bound : ad.get? a.name = some (.int i)) :
    OfIntegers ad (.attr a)
  | neg {e : Expr} (operand : OfIntegers ad e) : OfIntegers ad (-e)
  | arithmetic (op : ArithmeticOp) {left right : Expr} (first : OfIntegers ad left)
    (second : OfIntegers ad right) : OfIntegers ad (.binary (.arithmetic op) left right)

/-! ### Expressions and their operands -/

/-- The expression fits throughout, and its exact value is the integer. -/
def Exactly (ad : JobAd) (e : Expr) (v : Int64) : Prop :=
  ad.FitsThroughout e ∧ ad.exactValue? e = some v.toInt

variable {ad : JobAd} {e left right : Expr} {v : Int64}

theorem fits_iff : ad.Fits e ↔ ∃ v : Int64, ad.exactValue? e = some v.toInt := by
  simp only [Fits, Option.mem_def, ← Integer.exists_toInt_iff]
  constructor
  · intro held
    rcases held with ⟨_, value, v, rfl⟩
    exact ⟨v, value⟩
  · intro held
    rcases held with ⟨v, value⟩
    exact ⟨_, value, v, rfl⟩

theorem FitsThroughout.exists_exactly (fits : ad.FitsThroughout e) : ∃ v, ad.Exactly e v := by
  rcases fits_iff.1 (fits e e.self_mem_parts) with ⟨v, value⟩
  exact ⟨v, fits, value⟩

theorem exactly_iff_of_single {i : Int64} (single : e.parts = [e])
    (value : ad.exactValue? e = some i.toInt) : ad.Exactly e v ↔ i = v := by
  have fits : ad.FitsThroughout e := by
    rw [FitsThroughout, single, List.forall_mem_singleton]
    exact fits_iff.2 ⟨i, value⟩
  rw [Exactly, value, Option.some.injEq, Int64.toInt_inj]
  exact and_iff_right fits

theorem exactly_neg_iff :
    ad.Exactly (-e) v ↔ ∃ x, ad.Exactly e x ∧ Integer.neg? x = some v := by
  have throughout : ad.FitsThroughout (-e) ↔ ad.Fits (-e) ∧ ad.FitsThroughout e :=
    List.forall_mem_cons
  have whole : ad.exactValue? (-e) = (ad.exactValue? e).map fun x => -x := rfl
  simp only [Integer.neg?, Integer.ofInt?_eq_some_iff]
  rw [Exactly, throughout]
  constructor
  · intro held
    rcases held with ⟨⟨_, below⟩, value⟩
    rcases below.exists_exactly with ⟨x, operand⟩
    rw [whole, operand.2, Option.map_some, Option.some.injEq] at value
    exact ⟨x, operand, value.symm⟩
  · intro held
    rcases held with ⟨x, operand, negated⟩
    have value : ad.exactValue? (-e) = some v.toInt := by
      rw [whole, operand.2, Option.map_some, negated]
    exact ⟨⟨fits_iff.2 ⟨v, value⟩, operand.1⟩, value⟩

theorem exactly_arithmetic_iff {op : ArithmeticOp} :
    ad.Exactly (.binary (.arithmetic op) left right) v ↔
      ∃ x, ad.Exactly left x ∧ ∃ y, ad.Exactly right y ∧ op.onIntegers x y = some v := by
  have throughout : ad.FitsThroughout (.binary (.arithmetic op) left right) ↔
      ad.Fits (.binary (.arithmetic op) left right) ∧
        ad.FitsThroughout left ∧ ad.FitsThroughout right := by
    rw [FitsThroughout, Expr.parts, List.forall_mem_cons, List.forall_mem_append]
    rfl
  simp only [ArithmeticOp.onIntegers_eq_some_iff]
  rw [Exactly, throughout]
  constructor
  · intro held
    rcases held with ⟨⟨_, leftBelow, rightBelow⟩, value⟩
    rcases leftBelow.exists_exactly with ⟨x, first⟩
    rcases rightBelow.exists_exactly with ⟨y, second⟩
    rw [exactValue?, first.2, second.2, Option.bind_some, Option.bind_some] at value
    exact ⟨x, first, y, second, value⟩
  · intro held
    rcases held with ⟨x, first, y, second, result⟩
    have value : ad.exactValue? (.binary (.arithmetic op) left right) = some v.toInt := by
      rw [exactValue?, first.2, second.2]
      exact result
    exact ⟨⟨fits_iff.2 ⟨v, value⟩, first.1, second.1⟩, value⟩

/-! ### Exact or error -/

/-- Evaluation has a result exactly where the expression fits throughout, and then the exact one. -/
theorem OfIntegers.exists_result (integers : ad.OfIntegers e) :
    ∃ result : Option Int64, ad.eval e = .ofInt? result ∧
      ∀ v, result = some v ↔ ad.Exactly e v := by
  induction integers with
  | int i =>
      refine ⟨some i, rfl, ?_⟩
      intro v
      rw [exactly_iff_of_single rfl rfl, Option.some.injEq]
  | @attr a i bound =>
      have value : ad.exactValue? (.attr a) = some i.toInt := by
        rw [exactValue?, bound]
        rfl
      refine ⟨some i, ?_, ?_⟩
      · simp [eval, Expr.evalIn, maxDepth, readAt, bound, Expr.int, Value.ofInt?]
      · intro v
        rw [exactly_iff_of_single rfl value, Option.some.injEq]
  | neg _ operand =>
      rcases operand with ⟨result, value, exactly⟩
      refine ⟨_, eval_neg value, ?_⟩
      intro v
      simp only [Option.bind_eq_some_iff, exactly, exactly_neg_iff]
  | arithmetic op _ _ first second =>
      rcases first with ⟨leftResult, leftValue, leftExactly⟩
      rcases second with ⟨rightResult, rightValue, rightExactly⟩
      refine ⟨_, eval_arithmetic op leftValue rightValue, ?_⟩
      intro v
      simp only [Option.bind_eq_some_iff, leftExactly, rightExactly, exactly_arithmetic_iff]

/-- Arithmetic on integers yields the exact value where all parts of the expression fit, and error
where one does not. -/
theorem eval_exact_or_error (ad : JobAd) (e : Expr) (integers : ad.OfIntegers e) :
    (∀ v, ad.eval e = .int v ↔ ad.FitsThroughout e ∧ ad.exactValue? e = some v.toInt) ∧
      (ad.FitsThroughout e → ∃ v, ad.eval e = .int v) ∧
        (¬ ad.FitsThroughout e → ad.eval e = .error) := by
  rcases integers.exists_result with ⟨result, value, exactly⟩
  have yields : ∀ v, ad.eval e = .int v ↔ ad.Exactly e v := by
    intro v
    rw [value, Value.ofInt?_eq_int_iff, exactly]
  refine ⟨yields, ?_, ?_⟩
  · intro fits
    rcases fits.exists_exactly with ⟨v, held⟩
    exact ⟨v, (yields v).2 held⟩
  · intro unfit
    cases result with
    | none => exact value
    | some v => exact absurd ((exactly v).1 rfl).1 unfit

def greatest : JobAd := empty.assign "A" (.int Int64.maxValue)

/-- A sum that is too great on the way is error, although the whole would fit. The least integer is
reached from the greatest one without leaving the range. -/
theorem eval_greatest_exact_or_error :
    let around := Expr.target "a" + .int 1 - .int 1
    let least := -Expr.target "a" - .int 1
    (greatest.OfIntegers around ∧ greatest.exactValue? around = some Int64.maxValue.toInt ∧
      greatest.eval around = .error) ∧
        greatest.OfIntegers least ∧ greatest.eval least = .int Int64.minValue := by
  intro around least
  have bound : greatest.get? "a" = some (.int Int64.maxValue) := by
    rw [greatest, assign, get?_bind, if_pos (by decide +kernel)]
    rfl
  have reference : greatest.OfIntegers (.target "a") := .attr bound
  have aroundIntegers : greatest.OfIntegers around :=
    .arithmetic .sub (.arithmetic .add reference (.int 1)) (.int 1)
  have leastIntegers : greatest.OfIntegers least := .arithmetic .sub (.neg reference) (.int 1)
  have aroundExact := eval_exact_or_error greatest around aroundIntegers
  have leastExact := eval_exact_or_error greatest least leastIntegers
  refine ⟨⟨aroundIntegers, by decide +kernel, aroundExact.2.2 (by decide +kernel)⟩,
    leastIntegers, (leastExact.1 Int64.minValue).2 (by decide +kernel)⟩

end JobAd

end RoutingPolicy

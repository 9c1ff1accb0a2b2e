import RoutingPolicy.Ad.Value

/-!
# Expressions of job ads

An expression computes a value from the attributes of a job ad. Comparisons by identity have a
result for all operands; the other operators hand on error and undefined.
-/

set_option autoImplicit false

namespace RoutingPolicy

/-- In which ad an attribute is looked up. -/
inductive Scope where
  | target
  | my
  deriving DecidableEq

structure AttrRef where
  scope : Option Scope
  name : String
  deriving DecidableEq

inductive ArithmeticOp where
  | add
  | sub
  | mul
  | div
  deriving DecidableEq

inductive OrderOp where
  | lt
  | le
  | gt
  | ge
  deriving DecidableEq

inductive Comparison where
  | order (op : OrderOp)
  /-- Equality, which disregards case. -/
  | equal
  | unequal
  /-- Identity, which always has a truth value. -/
  | identical
  | distinct
  deriving DecidableEq

inductive BinaryOp where
  | arithmetic (op : ArithmeticOp)
  | compare (comparison : Comparison)
  | both
  deriving DecidableEq

/-- Functions with any number of arguments. -/
inductive Func where
  | size
  | strcat
  | stringListMember
  /-- A site list in ascending order, each entry once. -/
  | sortStringSet
  /-- A site list with the destinations of its entries. -/
  | siteMapping
  | removeSite
  deriving DecidableEq

inductive Expr where
  | lit (v : Value)
  | attr (a : AttrRef)
  | neg (e : Expr)
  | binary (op : BinaryOp) (left right : Expr)
  | member (item list : Expr)
  | regexp (pattern : String) (target : Expr)
  | call (f : Func) (args : List Expr)
  | cond (condition yes no : Expr)

namespace AttrRef

def plain (name : String) : AttrRef := ⟨none, name⟩

def target (name : String) : AttrRef := ⟨some .target, name⟩

end AttrRef

namespace Expr

def named (name : String) : Expr := attr (.plain name)

def target (name : String) : Expr := attr (.target name)

def str (s : String) : Expr := lit (.str s)

def bool (b : Bool) : Expr := lit (.bool b)

def int (i : Int64) : Expr := lit (.int i)

def lit? : Expr → Option Value
  | lit v => some v
  | _ => none

instance : Add Expr := ⟨binary (.arithmetic .add)⟩

instance : Sub Expr := ⟨binary (.arithmetic .sub)⟩

instance : Mul Expr := ⟨binary (.arithmetic .mul)⟩

instance : Div Expr := ⟨binary (.arithmetic .div)⟩

instance : Neg Expr := ⟨neg⟩

def both (a b : Expr) : Expr := binary .both a b

def compare (comparison : Comparison) (a b : Expr) : Expr := binary (.compare comparison) a b

end Expr

end RoutingPolicy

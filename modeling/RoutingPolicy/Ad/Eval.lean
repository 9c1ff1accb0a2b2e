import RoutingPolicy.Ad.JobAd
import RoutingPolicy.Regex.Reader

/-!
# Evaluation

Every expression has a value on every ad. A missing attribute is undefined; what has no result is
error. Operators hand on an operand that is error, or else one that is undefined, except that
identity always has a truth value and that a false operand decides a conjunction. An attribute is
evaluated where it is referred to; references may follow each other 32 deep, and the next one is
error whatever it names, so attributes that refer to each other in a circle are error, too.
-/

set_option autoImplicit false

namespace RoutingPolicy

namespace Value

/-- What an operator makes of operands without looking further: error if one is error, else
undefined if one is undefined. -/
def strict? (a b : Value) : Option Value :=
  if a.isError || b.isError then some error
  else if a.isUndefined || b.isUndefined then some undefined
  else none

def ofInt? : Option Int64 → Value
  | some i => int i
  | none => error

def ofBool? : Option Bool → Value
  | some b => bool b
  | none => error

/-! ### Arithmetic -/

def negate : Value → Value
  | int i => ofInt? (Integer.neg? i)
  | real r => real r.neg
  | undefined => undefined
  | _ => error

end Value

def ArithmeticOp.onIntegers : ArithmeticOp → Int64 → Int64 → Option Int64
  | add => Integer.add?
  | sub => Integer.sub?
  | mul => Integer.mul?
  | div => Integer.div?

def ArithmeticOp.onReals : ArithmeticOp → Binary64 → Binary64 → Option Binary64
  | add, a, b => some (a.add b)
  | sub, a, b => some (a.sub b)
  | mul, a, b => some (a.mul b)
  | div, a, b => if b.equal (.zero false) then none else some (a.div b)

def ArithmeticOp.apply (op : ArithmeticOp) : Value → Value → Value
  | .int a, .int b => .ofInt? (op.onIntegers a b)
  | a, b =>
    match a.real?, b.real? with
    | some a, some b => match op.onReals a b with
      | some r => .real r
      | none => .error
    | _, _ => .error

/-! ### Comparison -/

namespace Value

/-- The order of two numbers or two texts; the case of letters does not count. -/
def order? : Value → Value → Option Ordering
  | int a, int b => some (compare a b)
  | str a, str b => some (compare (Text.foldCase a) (Text.foldCase b))
  | a, b =>
    match a.real?, b.real? with
    | some a, some b => a.order? b
    | _, _ => none

/-- Whether two values are equal, as far as they can be compared; the case of letters does not
count. -/
def equals? : Value → Value → Option Bool
  | str a, str b => some (Text.sameIgnoringCase a b)
  | bool a, bool b => some (a == b)
  | a, b => (order? a b).map (· == .eq)

end Value

def OrderOp.holds : OrderOp → Ordering → Bool
  | lt, o => o == .lt
  | le, o => o != .gt
  | gt, o => o == .gt
  | ge, o => o != .lt

def Comparison.apply (comparison : Comparison) (a b : Value) : Value :=
  match comparison with
  | identical => .bool (a.identical b)
  | distinct => .bool !(a.identical b)
  | equal => (a.strict? b).getD (.ofBool? (a.equals? b))
  | unequal => (a.strict? b).getD (.ofBool? ((a.equals? b).map not))
  | order op => (a.strict? b).getD (.ofBool? ((a.order? b).map op.holds))

namespace Value

/-- Whether an item equals an element of a list. Lists and records are elements of nothing. -/
def isMember (item : Value) (elements : Value) : Value :=
  match item.strict? elements with
  | some v => v
  | none =>
    match item, elements with
    | list _, _ => error
    | record _, _ => error
    | item, list candidates => bool (candidates.any fun c => item.equals? c == some true)
    | _, _ => error

def matchesPattern (pattern : String) : Value → Value
  | str s => ofBool? ((Regex.read? pattern).map (·.isMatch s))
  | undefined => undefined
  | _ => error

/-! ### Functions -/

def piece? : Value → Option String
  | str s => some s
  | int i => some (Integer.text i)
  | real r => some (real r).render
  | bool b => some (bool b).render
  | _ => none

def concatenate (values : List Value) : Value :=
  if values.any isError then error
  else if values.any isUndefined then undefined
  else match values.mapM piece? with
    | some pieces => str (String.join pieces)
    | none => error

/-- The destinations that a record gives for a source: none if it has no such field. A field that is
not a list of texts has no meaning. -/
def destinations? (fields : List (String × Value)) (source : String) : Option (List String) :=
  match fields.lookup source with
  | none => some []
  | some (list items) => items.mapM str?
  | some _ => none

/-- The entries of a site list and the destinations of each of them, which must have a meaning. -/
def mapSites (sites : String) (fields : List (String × Value)) : Value :=
  if (SiteList.entries sites).all fun source => (destinations? fields source).isSome then
    str (SiteList.expand (fun source => (destinations? fields source).getD []) sites)
  else error

end Value

open Value in
def Func.apply : Func → List Value → Value
  | size, [str s] => int (Int64.ofNat s.length)
  | size, [list items] => int (Int64.ofNat items.length)
  | size, [undefined] => undefined
  | strcat, values => concatenate values
  | stringListMember, [item, sites] => (item.strict? sites).getD <|
    match item, sites with
    | str item, str sites => bool (SiteList.contains sites item)
    | _, _ => error
  | sortStringSet, [str sites] => str (SiteList.sorted sites)
  | sortStringSet, [undefined] => undefined
  | siteMapping, [sites, mapping] => (sites.strict? mapping).getD <|
    match sites, mapping with
    | str sites, record fields => mapSites sites fields
    | _, _ => error
  | removeSite, [site, sites] => (site.strict? sites).getD <|
    match site, sites with
    | str site, str sites => str (SiteList.without sites site)
    | _, _ => error
  | _, _ => error

/-! ### Expressions -/

namespace Value

/-- Whether a condition holds: a truth value as it is, a number unless it is zero. -/
def holds? : Value → Option Bool
  | bool b => some b
  | int i => some (i != 0)
  | real r => some !(r.equal (.zero false))
  | _ => none

/-- The value of a conjunction behind an operand that is true: the other operand, if it can be
one. -/
def afterTrue : Value → Value
  | bool b => bool b
  | undefined => undefined
  | _ => error

/-- The value of a conjunction behind an operand that is undefined: false if the other operand
is. -/
def afterUndefined : Value → Value
  | bool false => bool false
  | bool true => undefined
  | undefined => undefined
  | _ => error

end Value

namespace Expr

open Value in
mutual

/-- The value of an expression whose attributes have the values that `read` gives. -/
def evalIn (read : String → Value) : Expr → Value
  | lit v => v
  | attr a => read a.name
  | neg e => (evalIn read e).negate
  | binary (.arithmetic op) left right =>
    let a := evalIn read left
    let b := evalIn read right
    (a.strict? b).getD (op.apply a b)
  | binary (.compare comparison) left right =>
    comparison.apply (evalIn read left) (evalIn read right)
  | binary .both left right =>
    match evalIn read left with
    | .bool false => .bool false
    | .bool true => (evalIn read right).afterTrue
    | .undefined => (evalIn read right).afterUndefined
    | _ => .error
  | member item elements => (evalIn read item).isMember (evalIn read elements)
  | regexp pattern target => (evalIn read target).matchesPattern pattern
  | call f args => f.apply (evalAll read args)
  | cond condition yes no =>
    let c := evalIn read condition
    match c.holds? with
    | some true => evalIn read yes
    | some false => evalIn read no
    | none => if c.isUndefined then .undefined else .error

def evalAll (read : String → Value) : List Expr → List Value
  | [] => []
  | e :: rest => evalIn read e :: evalAll read rest

end

end Expr

namespace JobAd

def maxDepth : Nat := 32

/-- The value of an attribute, from which references may still go `depth` deep, itself included. -/
def readAt (ad : JobAd) : Nat → String → Value
  | 0, _ => .error
  | depth + 1, name =>
    match ad.get? name with
    | some e => e.evalIn (ad.readAt depth)
    | none => .undefined

def eval (ad : JobAd) (e : Expr) : Value := e.evalIn (ad.readAt maxDepth)

def evalAttr (ad : JobAd) (name : String) : Value := ad.eval (.named name)

end JobAd

end RoutingPolicy

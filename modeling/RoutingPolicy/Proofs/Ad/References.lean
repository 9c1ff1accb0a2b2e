import RoutingPolicy.Ad.Eval

/-!
# References to attributes

The value of an expression depends on the values of the attributes that it names, and on nothing
else of the ad (`evalIn_congr`). Replacing references by expressions commutes with evaluation: the
expression that results has the value of the original where each attribute has the value of what
replaces it (`evalIn_replaced`).
-/

set_option autoImplicit false

namespace RoutingPolicy

namespace Expr

mutual

/-- The names of the attributes that an expression refers to, as they are spelled there. -/
def names : Expr → List String
  | lit _ => []
  | attr a => [a.name]
  | neg e => names e
  | binary _ left right => names left ++ names right
  | member item elements => names item ++ names elements
  | regexp _ target => names target
  | call _ args => namesAll args
  | cond condition yes no => names condition ++ names yes ++ names no

def namesAll : List Expr → List String
  | [] => []
  | e :: rest => names e ++ namesAll rest

end

mutual

def replaced (image : String → Expr) : Expr → Expr
  | lit v => lit v
  | attr a => image a.name
  | neg e => neg (replaced image e)
  | binary op left right => binary op (replaced image left) (replaced image right)
  | member item elements => member (replaced image item) (replaced image elements)
  | regexp pattern target => regexp pattern (replaced image target)
  | call f args => call f (replacedAll image args)
  | cond condition yes no =>
    cond (replaced image condition) (replaced image yes) (replaced image no)

def replacedAll (image : String → Expr) : List Expr → List Expr
  | [] => []
  | e :: rest => replaced image e :: replacedAll image rest

end

/-! ### Evaluation -/

section Congruence

variable {read read' : String → Value}

mutual

/-- Attributes that an expression does not name have no part in its value. -/
theorem evalIn_congr : ∀ e : Expr, (∀ name ∈ names e, read name = read' name) →
    evalIn read e = evalIn read' e
  | lit _, _ => rfl
  | attr a, same => same a.name List.mem_cons_self
  | neg e, same => by rw [evalIn, evalIn, evalIn_congr e same]
  | binary (.arithmetic _) left right, same => by
    rw [names, List.forall_mem_append] at same
    rw [evalIn, evalIn, evalIn_congr left same.1, evalIn_congr right same.2]
  | binary (.compare _) left right, same => by
    rw [names, List.forall_mem_append] at same
    rw [evalIn, evalIn, evalIn_congr left same.1, evalIn_congr right same.2]
  | binary .both left right, same => by
    rw [names, List.forall_mem_append] at same
    rw [evalIn, evalIn, evalIn_congr left same.1, evalIn_congr right same.2]
  | member item elements, same => by
    rw [names, List.forall_mem_append] at same
    rw [evalIn, evalIn, evalIn_congr item same.1, evalIn_congr elements same.2]
  | regexp _ target, same => by rw [evalIn, evalIn, evalIn_congr target same]
  | call _ args, same => by rw [evalIn, evalIn, evalAll_congr args same]
  | cond condition yes no, same => by
    rw [names, List.forall_mem_append, List.forall_mem_append] at same
    rw [evalIn, evalIn, evalIn_congr condition same.1.1, evalIn_congr yes same.1.2,
      evalIn_congr no same.2]

theorem evalAll_congr : ∀ args : List Expr, (∀ name ∈ namesAll args, read name = read' name) →
    evalAll read args = evalAll read' args
  | [], _ => rfl
  | e :: rest, same => by
    rw [namesAll, List.forall_mem_append] at same
    rw [evalAll, evalAll, evalIn_congr e same.1, evalAll_congr rest same.2]

end

end Congruence

section Replacement

variable {image image' : String → Expr}

mutual

theorem evalIn_replaced (read : String → Value) : ∀ e : Expr,
    evalIn read (replaced image e) = evalIn (fun name => evalIn read (image name)) e
  | lit _ => rfl
  | attr _ => rfl
  | neg e => by rw [replaced, evalIn, evalIn, evalIn_replaced read e]
  | binary (.arithmetic _) left right => by
    rw [replaced, evalIn, evalIn, evalIn_replaced read left, evalIn_replaced read right]
  | binary (.compare _) left right => by
    rw [replaced, evalIn, evalIn, evalIn_replaced read left, evalIn_replaced read right]
  | binary .both left right => by
    rw [replaced, evalIn, evalIn, evalIn_replaced read left, evalIn_replaced read right]
  | member item elements => by
    rw [replaced, evalIn, evalIn, evalIn_replaced read item, evalIn_replaced read elements]
  | regexp _ target => by rw [replaced, evalIn, evalIn, evalIn_replaced read target]
  | call _ args => by rw [replaced, evalIn, evalIn, evalAll_replacedAll read args]
  | cond condition yes no => by
    rw [replaced, evalIn, evalIn, evalIn_replaced read condition, evalIn_replaced read yes,
      evalIn_replaced read no]

theorem evalAll_replacedAll (read : String → Value) : ∀ args : List Expr,
    evalAll read (replacedAll image args) =
      evalAll (fun name => evalIn read (image name)) args
  | [] => rfl
  | e :: rest => by
    rw [replacedAll, evalAll, evalAll, evalIn_replaced read e, evalAll_replacedAll read rest]

end

mutual

theorem replaced_congr : ∀ e : Expr, (∀ name ∈ names e, image name = image' name) →
    replaced image e = replaced image' e
  | lit _, _ => rfl
  | attr a, same => same a.name List.mem_cons_self
  | neg e, same => by rw [replaced, replaced, replaced_congr e same]
  | binary _ left right, same => by
    rw [names, List.forall_mem_append] at same
    rw [replaced, replaced, replaced_congr left same.1, replaced_congr right same.2]
  | member item elements, same => by
    rw [names, List.forall_mem_append] at same
    rw [replaced, replaced, replaced_congr item same.1, replaced_congr elements same.2]
  | regexp _ target, same => by rw [replaced, replaced, replaced_congr target same]
  | call _ args, same => by rw [replaced, replaced, replacedAll_congr args same]
  | cond condition yes no, same => by
    rw [names, List.forall_mem_append, List.forall_mem_append] at same
    rw [replaced, replaced, replaced_congr condition same.1.1, replaced_congr yes same.1.2,
      replaced_congr no same.2]

theorem replacedAll_congr : ∀ args : List Expr,
    (∀ name ∈ namesAll args, image name = image' name) →
      replacedAll image args = replacedAll image' args
  | [], _ => rfl
  | e :: rest, same => by
    rw [namesAll, List.forall_mem_append] at same
    rw [replacedAll, replacedAll, replaced_congr e same.1, replacedAll_congr rest same.2]

end

mutual

theorem names_replaced : ∀ e : Expr,
    names (replaced image e) = (names e).flatMap fun name => names (image name)
  | lit _ => rfl
  | attr _ => (List.flatMap_singleton _ _).symm
  | neg e => by rw [replaced, names, names, names_replaced e]
  | binary _ left right => by
    rw [replaced, names, names, names_replaced left, names_replaced right, List.flatMap_append]
  | member item elements => by
    rw [replaced, names, names, names_replaced item, names_replaced elements, List.flatMap_append]
  | regexp _ target => by rw [replaced, names, names, names_replaced target]
  | call _ args => by rw [replaced, names, names, namesAll_replacedAll args]
  | cond condition yes no => by
    rw [replaced, names, names, names_replaced condition, names_replaced yes, names_replaced no,
      List.flatMap_append, List.flatMap_append]

theorem namesAll_replacedAll : ∀ args : List Expr,
    namesAll (replacedAll image args) =
      (namesAll args).flatMap fun name => names (image name)
  | [] => rfl
  | e :: rest => by
    rw [replacedAll, namesAll, namesAll, names_replaced e, namesAll_replacedAll rest,
      List.flatMap_append]

end

end Replacement

end Expr

end RoutingPolicy

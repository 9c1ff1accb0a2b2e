import Mathlib.Data.Set.Basic
import RoutingPolicy.Ad.Eval

/-!
# Attributes that refer to each other in a circle

An error decides the value of nearly everything that it is an operand of. What escapes it is an
identity, what follows in a conjunction, and the branches of a conditional; a reference anywhere
else is exposed. Attributes of which each has an exposed reference to one of them never get a value
other than error: the references run into the limit on their depth, and the error that they find
there comes back all the way, whatever else the expressions on the way compute.
-/

set_option autoImplicit false

namespace RoutingPolicy

/-! ### Operands that are error -/

namespace Value

theorem strict?_eq_error {a b : Value} (bad : a = error ∨ b = error) :
    a.strict? b = some error := by
  rcases bad with rfl | rfl <;> simp [strict?, isError]

theorem isMember_eq_error {a b : Value} (bad : a = error ∨ b = error) : a.isMember b = error := by
  unfold isMember
  rw [strict?_eq_error bad]

theorem concatenate_eq_error {values : List Value} (bad : error ∈ values) :
    concatenate values = error := by
  have found : values.any isError = true := List.any_eq_true.2 ⟨error, bad, rfl⟩
  rw [concatenate, if_pos found]

end Value

namespace Comparison

def isIdentity : Comparison → Bool
  | identical => true
  | distinct => true
  | _ => false

theorem apply_eq_error {comparison : Comparison} {a b : Value}
    (strict : ¬ comparison.isIdentity = true) (bad : a = .error ∨ b = .error) :
    comparison.apply a b = .error := by
  cases comparison with
  | identical => exact absurd rfl strict
  | distinct => exact absurd rfl strict
  | _ => rw [apply, Value.strict?_eq_error bad, Option.getD_some]

end Comparison

theorem Func.apply_eq_error (f : Func) {values : List Value} (bad : .error ∈ values) :
    f.apply values = .error := by
  have strict : ∀ {a b : Value}, .error ∈ [a, b] → a.strict? b = some .error := by
    intro a b bad
    apply Value.strict?_eq_error
    simpa [eq_comm] using bad
  unfold apply
  split
  case h_4 => exact Value.concatenate_eq_error bad
  case h_5 => rw [strict bad, Option.getD_some]
  case h_8 => rw [strict bad, Option.getD_some]
  case h_9 => rw [strict bad, Option.getD_some]
  case h_10 => rfl
  all_goals simp at bad

namespace Expr

mutual

/-- The names of the attributes that an expression refers to outside of identities, of right
operands of conjunctions and of branches. -/
def exposedNames : Expr → List String
  | lit _ => []
  | attr a => [a.name]
  | neg e => exposedNames e
  | binary (.arithmetic _) left right => exposedNames left ++ exposedNames right
  | binary (.compare comparison) left right =>
    if comparison.isIdentity then [] else exposedNames left ++ exposedNames right
  | binary .both left _ => exposedNames left
  | member item elements => exposedNames item ++ exposedNames elements
  | regexp _ target => exposedNames target
  | call _ args => exposedNamesOfAll args
  | cond condition _ _ => exposedNames condition

def exposedNamesOfAll : List Expr → List String
  | [] => []
  | e :: rest => exposedNames e ++ exposedNamesOfAll rest

end

section Errors

variable {read : String → Value} {name : String}

mutual

theorem evalIn_eq_error (bad : read name = .error) :
    ∀ e : Expr, name ∈ exposedNames e → evalIn read e = .error
  | lit _, exposed => nomatch exposed
  | attr a, exposed => by
    obtain rfl := List.mem_singleton.1 exposed
    exact bad
  | neg e, exposed => by
    rw [evalIn, evalIn_eq_error bad e exposed]
    rfl
  | binary (.arithmetic _) left right, exposed => by
    have either := (List.mem_append.1 exposed).imp (evalIn_eq_error bad left)
      (evalIn_eq_error bad right)
    rw [evalIn, Value.strict?_eq_error either, Option.getD_some]
  | binary (.compare comparison) left right, exposed => by
    rw [exposedNames] at exposed
    split at exposed
    · cases exposed
    · next strict =>
        have either := (List.mem_append.1 exposed).imp (evalIn_eq_error bad left)
          (evalIn_eq_error bad right)
        rw [evalIn, Comparison.apply_eq_error strict either]
  | binary .both left _, exposed => by rw [evalIn, evalIn_eq_error bad left exposed]
  | member item elements, exposed => by
    have either := (List.mem_append.1 exposed).imp (evalIn_eq_error bad item)
      (evalIn_eq_error bad elements)
    rw [evalIn, Value.isMember_eq_error either]
  | regexp _ target, exposed => by
    rw [evalIn, evalIn_eq_error bad target exposed]
    rfl
  | call f args, exposed => by rw [evalIn, f.apply_eq_error (error_mem_evalAll bad args exposed)]
  | cond condition _ _, exposed => by
    rw [evalIn, evalIn_eq_error bad condition exposed]
    rfl

theorem error_mem_evalAll (bad : read name = .error) :
    ∀ args : List Expr, name ∈ exposedNamesOfAll args → .error ∈ evalAll read args
  | [], exposed => nomatch exposed
  | e :: rest, exposed => by
    rcases List.mem_append.1 exposed with first | later
    · rw [evalAll, evalIn_eq_error bad e first]
      exact List.mem_cons_self
    · exact List.mem_cons_of_mem _ (error_mem_evalAll bad rest later)

end

end Errors

end Expr

/-! ### Circles -/

namespace JobAd

variable {ad : JobAd} {names : Set String}

def IsAmong (name : String) (names : Set String) : Prop :=
  ∃ listed ∈ names, Text.sameIgnoringCase name listed = true

/-- Each of the attributes is bound to an expression with an exposed reference to one of them. -/
def Circular (ad : JobAd) (names : Set String) : Prop :=
  ∀ name ∈ names, ∃ e, ad.get? name = some e ∧ ∃ next ∈ e.exposedNames, IsAmong next names

theorem Circular.readAt_eq_error (circular : ad.Circular names) (depth : Nat) {name : String}
    (among : IsAmong name names) : ad.readAt depth name = .error := by
  induction depth generalizing name with
  | zero => rfl
  | succ depth induction =>
      obtain ⟨listed, member, same⟩ := among
      obtain ⟨e, bound, next, exposed, amongNext⟩ := circular listed member
      have spelled : ad.get? name = some e := by
        rw [get?, Text.sameIgnoringCase_iff.1 same]
        exact bound
      rw [readAt, spelled]
      exact Expr.evalIn_eq_error (induction amongNext) e exposed

/-- A reference to one of the attributes of a circle is error, in any spelling and scope. -/
theorem eval_attr_eq_error_of_circular (ad : JobAd) (names : Set String)
    (circular : ad.Circular names) (a : AttrRef) (among : IsAmong a.name names) :
    ad.eval (.attr a) = .error :=
  circular.readAt_eq_error maxDepth among

/-- Two attributes that refer to each other beside an operand that is undefined. -/
def circle : JobAd :=
  (empty.bind "A" (.call .strcat [.named "Missing", .target "b"])).bind "B"
    (.both (.member (.str "x") (.named "a")) (.bool false))

theorem eval_attr_circle_eq_error :
    circle.Circular {"A", "B"} ∧ IsAmong "b" {"A", "B"} ∧
      circle.eval (.attr (.target "b")) = .error := by
  have circular : circle.Circular {"A", "B"} := by
    rintro name (rfl | rfl)
    · exact ⟨_, rfl, "b", by decide +kernel, "B", .inr rfl, by decide +kernel⟩
    · exact ⟨_, rfl, "a", by decide +kernel, "A", .inl rfl, by decide +kernel⟩
  have among : IsAmong "b" {"A", "B"} := ⟨"B", .inr rfl, by decide +kernel⟩
  exact ⟨circular, among, eval_attr_eq_error_of_circular circle _ circular (.target "b") among⟩

end JobAd

end RoutingPolicy

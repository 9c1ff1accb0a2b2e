import Mathlib
import RoutingPolicy.Ad.Guard

/-!
# Reading attributes and guards

An attribute that is bound to a literal reads as its value, at every depth but the last, and what
a rule writes is read back under every spelling of the name. A guard holds exactly when each of its
conditions is true: neither undefined nor error lets a conjunction become true. Membership in a set
of texts disregards case, which is why the spelling of tasks matters to everything built on it.
-/

namespace RoutingPolicy

set_option autoImplicit false

namespace Value

theorem isTrue_iff {v : Value} : v.isTrue = true ↔ v = .bool true := by
  cases v <;> simp [isTrue]

@[simp] theorem identical_bool_iff {v : Value} {b : Bool} :
    v.identical (.bool b) = true ↔ v = .bool b := by
  cases v <;> simp [identical]

@[simp] theorem identical_str_iff {v : Value} {s : String} :
    v.identical (.str s) = true ↔ v = .str s := by
  cases v <;> simp [identical]

end Value

@[simp] theorem Comparison.apply_equal_str (s t : String) :
    Comparison.equal.apply (.str s) (.str t) = .bool (Text.sameIgnoringCase s t) := rfl

@[simp] theorem AttrRef.name_plain (name : String) : (plain name).name = name := rfl

namespace JobAd

variable {ad : JobAd} {name : String} {v : Value}

theorem evalAttr_of_lit (bound : ad.get? name = some (.lit v)) : ad.evalAttr name = v := by
  simp [evalAttr, eval, Expr.named, AttrRef.plain, Expr.evalIn, maxDepth, readAt, bound]

theorem evalAttr_of_unbound (unbound : ad.get? name = none) : ad.evalAttr name = .undefined := by
  simp [evalAttr, eval, Expr.named, AttrRef.plain, Expr.evalIn, maxDepth, readAt, unbound]

theorem get?_assign (ad : JobAd) (name name' : String) (v : Value) :
    (ad.assign name v).get? name' =
      if Text.foldCase name' = Text.foldCase name then some (.lit v) else ad.get? name' :=
  ad.get?_bind name name' (.lit v)

theorem get?_congr (ad : JobAd) {name name' : String}
    (same : Text.foldCase name = Text.foldCase name') : ad.get? name = ad.get? name' := by
  rw [get?, get?, same]

theorem evalAttr_congr (ad : JobAd) {name name' : String}
    (same : Text.foldCase name = Text.foldCase name') : ad.evalAttr name = ad.evalAttr name' := by
  simp only [evalAttr, eval, Expr.named, AttrRef.plain, Expr.evalIn, maxDepth, readAt,
    ad.get?_congr same]

/-! ### Values of conditions -/

@[simp] theorem eval_lit (ad : JobAd) (v : Value) : ad.eval (.lit v) = v := rfl

@[simp] theorem eval_str (ad : JobAd) (s : String) : ad.eval (.str s) = .str s := rfl

@[simp] theorem eval_attr (ad : JobAd) (a : AttrRef) : ad.eval (.attr a) = ad.evalAttr a.name := rfl

@[simp] theorem eval_named (ad : JobAd) (name : String) :
    ad.eval (.named name) = ad.evalAttr name := rfl

@[simp] theorem eval_compareTo (ad : JobAd) (comparison : Comparison) (a : AttrRef) (v : Value) :
    ad.eval (.compareTo comparison a v) = comparison.apply (ad.evalAttr a.name) v := rfl

@[simp] theorem eval_flagIsTrue (ad : JobAd) (a : AttrRef) :
    ad.eval (.flagIsTrue a) = .bool ((ad.evalAttr a.name).identical (.bool true)) := rfl

@[simp] theorem eval_flagIsNotTrue (ad : JobAd) (a : AttrRef) :
    ad.eval (.flagIsNotTrue a) = .bool !((ad.evalAttr a.name).identical (.bool true)) := rfl

@[simp] theorem eval_matchesRegex (ad : JobAd) (pattern : String) (a : AttrRef) :
    ad.eval (.matchesRegex pattern a) = (ad.evalAttr a.name).matchesPattern pattern := rfl

theorem eval_cond_of_bool {condition yes no : Expr} {b : Bool}
    (decided : ad.eval condition = .bool b) :
    ad.eval (.cond condition yes no) = if b then ad.eval yes else ad.eval no := by
  have read : condition.evalIn (ad.readAt maxDepth) = .bool b := decided
  simp only [eval, Expr.evalIn, read, Value.holds?]
  cases b <;> rfl

theorem eval_flagIsTrue_eq_true_iff {a : AttrRef} :
    ad.eval (.flagIsTrue a) = .bool true ↔ ad.evalAttr a.name = .bool true := by
  rw [eval_flagIsTrue, Value.bool.injEq, Value.identical_bool_iff]

theorem eval_flagIsNotTrue_eq_true_iff {a : AttrRef} :
    ad.eval (.flagIsNotTrue a) = .bool true ↔ ad.evalAttr a.name ≠ .bool true := by
  rw [eval_flagIsNotTrue, Value.bool.injEq, Bool.not_eq_true', Bool.eq_false_iff, Ne,
    Value.identical_bool_iff]

theorem eval_both_eq_true_iff {a b : Expr} :
    ad.eval (.both a b) = .bool true ↔ ad.eval a = .bool true ∧ ad.eval b = .bool true := by
  simp only [eval, Expr.both, Expr.evalIn]
  generalize a.evalIn (ad.readAt maxDepth) = left
  generalize b.evalIn (ad.readAt maxDepth) = right
  cases left with
  | bool truth =>
      cases truth
      · simp
      · cases right <;> simp [Value.afterTrue]
  | undefined =>
      cases right with
      | bool truth => cases truth <;> simp [Value.afterUndefined]
      | _ => simp [Value.afterUndefined]
  | _ => simp

end JobAd

namespace Value

theorem equals?_str_iff {v : Value} {t : String} :
    v.equals? (.str t) = some true ↔ ∃ s, v = .str s ∧ Text.sameIgnoringCase s t = true := by
  cases v <;> simp [equals?, order?, real?]

theorem isMember_ofStrings_iff {v : Value} {texts : List String} :
    v.isMember (.ofStrings texts) = .bool true ↔
      ∃ s, v = .str s ∧ ∃ t ∈ texts, Text.sameIgnoringCase s t = true := by
  have candidates : (texts.map str).any (fun c => v.equals? c == some true) = true ↔
      ∃ s, v = .str s ∧ ∃ t ∈ texts, Text.sameIgnoringCase s t = true := by
    simp only [List.any_map, List.any_eq_true, Function.comp_apply, beq_iff_eq, equals?_str_iff]
    constructor
    · rintro ⟨t, member, s, rfl, same⟩
      exact ⟨s, rfl, t, member, same⟩
    · rintro ⟨s, rfl, t, member, same⟩
      exact ⟨t, member, s, rfl, same⟩
  rw [← candidates]
  cases v <;> simp [isMember, strict?, ofStrings, isError, isUndefined, equals?, order?, real?]

end Value

/-! ### Conjunctions -/

/-- The property is true of a conjunction where it is true of both sides. -/
structure Expr.Distributes (Holds : Expr → Prop) : Prop where
  empty : Holds (.bool true)
  both : ∀ a b, Holds (.both a b) ↔ Holds a ∧ Holds b

theorem JobAd.distributes_true (ad : JobAd) :
    Expr.Distributes fun e => ad.eval e = .bool true where
  empty := rfl
  both _ _ := eval_both_eq_true_iff

namespace Guard

theorem forall_clauses_iff {Holds : Expr → Prop} (distributes : Expr.Distributes Holds)
    (g : Guard) : (∀ clause ∈ g.clauses, Holds clause) ↔ Holds g.expr := by
  rcases g with ⟨clauses⟩
  rw [expr]
  cases clauses with
  | nil => exact iff_of_true (List.forall_mem_nil _) distributes.empty
  | cons first rest =>
      dsimp only
      induction rest generalizing first with
      | nil => exact List.forall_mem_singleton
      | cons second rest induction =>
          rw [List.foldl_cons, ← induction, List.forall_mem_cons, List.forall_mem_cons,
            List.forall_mem_cons, distributes.both, and_assoc]

theorem holds_iff {g : Guard} {ad : JobAd} :
    g.holds ad = true ↔ ∀ clause ∈ g.clauses, ad.eval clause = .bool true := by
  rw [holds, Value.isTrue_iff, eval]
  exact (forall_clauses_iff ad.distributes_true g).symm

end Guard

namespace Expr

variable {a : AttrRef} {items : List String} {selector : Expr}

theorem memberOf?_eq_none_iff : memberOf? a items = none ↔ items = [] := by
  have empty : (SortedSet.ofList items).toList = [] ↔ items = [] := by
    rw [List.eq_nil_iff_forall_not_mem, List.eq_nil_iff_forall_not_mem]
    exact forall_congr' fun item => not_congr SortedSet.mem_ofList
  simp [memberOf?, SortedSet.isEmpty, empty]

/-- A selector is true of the ads that name one of its items in any spelling. -/
theorem eval_memberOf?_iff {ad : JobAd} (selects : memberOf? a items = some selector) :
    ad.eval selector = .bool true ↔
      ∃ s, ad.evalAttr a.name = .str s ∧ ∃ t ∈ items, Text.sameIgnoringCase s t = true := by
  simp only [memberOf?] at selects
  split at selects
  · cases selects
  · obtain rfl := Option.some.inj selects
    have value : ad.eval (member (attr a) (lit (.ofStrings (SortedSet.ofList items).toList))) =
        (ad.evalAttr a.name).isMember (.ofStrings (SortedSet.ofList items).toList) := rfl
    have members : ∀ t, t ∈ (SortedSet.ofList items).toList ↔ t ∈ items :=
      fun t => SortedSet.mem_ofList
    simp only [value, Value.isMember_ofStrings_iff, members]

end Expr

end RoutingPolicy

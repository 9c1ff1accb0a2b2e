import Mathlib.Data.Set.Basic
import RoutingPolicy.Proofs.Ad.Reading
import RoutingPolicy.Proofs.Ad.References
import RoutingPolicy.Proofs.Collections.Values

/-!
# What an expression reads of an ad

An expression reads the attributes that it refers to and those that their expressions refer to, and
so on; what an ad binds to other names has no part in its value. A reference is read by its name in
small letters, whatever its scope. So spelling it in another way, in the expression or in the ad,
changes no value, and neither does spelling the names that are bound in another way. All this holds
of references that go too deep or in a circle as well.
-/

set_option autoImplicit false

namespace RoutingPolicy

/-- The expression with every reference in small letters and without a scope. Expressions with the
same canonical form differ in the spelling of their references only. -/
def Expr.canonical (e : Expr) : Expr := e.replaced fun name => .named (Text.foldCase name)

namespace JobAd

/-- The ad with all its names in small letters and all its expressions in canonical form. -/
def canonical (ad : JobAd) : JobAd where
  entries := ad.entries.mapValues fun b => ⟨Text.foldCase b.name, b.expr.canonical⟩
  keyed := by
    intro entry member
    rw [SortedMap.entries_mapValues] at member
    rcases List.mem_map.1 member with ⟨original, listed, rfl⟩
    rw [Text.foldCase_foldCase]
    exact ad.keyed original listed

theorem get?_canonical (ad : JobAd) (name : String) :
    ad.canonical.get? name = (ad.get? name).map Expr.canonical := by
  rw [get?, get?, canonical, SortedMap.get?_mapValues, Option.map_map, Option.map_map]
  rfl

theorem canonical_bind (ad : JobAd) (name : String) (e : Expr) :
    (ad.bind name e).canonical = ad.canonical.bind (Text.foldCase name) e.canonical := by
  simp only [canonical, bind, SortedMap.mapValues_insert, Text.foldCase_foldCase]

/-- Names among which are, in small letters, those that an expression refers to and those that the
expressions of its names refer to. -/
structure Reaches (ad : JobAd) (e : Expr) (names : Set String) : Prop where
  direct : ∀ name ∈ e.names, Text.foldCase name ∈ names
  onward : ∀ name ∈ names, ∀ bound, ad.get? name = some bound →
    ∀ next ∈ bound.names, Text.foldCase next ∈ names

variable {ad other : JobAd} {e e' : Expr} {names : Set String}

theorem readAt_foldCase (ad : JobAd) (depth : Nat) (name : String) :
    ad.readAt depth (Text.foldCase name) = ad.readAt depth name := by
  cases depth with
  | zero => rfl
  | succ depth => rw [readAt, readAt, ad.get?_congr (Text.foldCase_foldCase name)]

theorem evalIn_canonical (ad : JobAd) (depth : Nat) (e : Expr) :
    e.canonical.evalIn (ad.readAt depth) = e.evalIn (ad.readAt depth) := by
  rw [Expr.canonical, Expr.evalIn_replaced]
  apply Expr.evalIn_congr
  intro name _
  exact ad.readAt_foldCase depth name

/-- Names that lead to each other only, and that have the same expressions up to spelling in both
ads, have the same values in both, however deep references go. -/
theorem readAt_eq_of_agree
    (onward : ∀ name ∈ names, ∀ bound, ad.get? name = some bound →
      ∀ next ∈ bound.names, Text.foldCase next ∈ names)
    (agree : ∀ name ∈ names,
      (ad.get? name).map Expr.canonical = (other.get? name).map Expr.canonical)
    (depth : Nat) {name : String} (member : Text.foldCase name ∈ names) :
    ad.readAt depth name = other.readAt depth name := by
  induction depth generalizing name with
  | zero => rfl
  | succ depth induction =>
      have alike := agree _ member
      rw [← ad.readAt_foldCase, ← other.readAt_foldCase, readAt, readAt]
      cases found : ad.get? (Text.foldCase name) with
      | none =>
          rw [found, Option.map_none] at alike
          rw [Option.map_eq_none_iff.1 alike.symm]
      | some bound =>
          rw [found, Option.map_some] at alike
          obtain ⟨bound', found', spelled⟩ := Option.map_eq_some_iff.1 alike.symm
          rw [found']
          calc
            bound.evalIn (ad.readAt depth) = bound.evalIn (other.readAt depth) := by
              apply Expr.evalIn_congr
              intro next named
              exact induction (onward _ member bound found next named)
            _ = bound.canonical.evalIn (other.readAt depth) := (other.evalIn_canonical ..).symm
            _ = bound'.evalIn (other.readAt depth) := by rw [← spelled, evalIn_canonical]

theorem eval_eq_of_agree (reaches : ad.Reaches e names)
    (agree : ∀ name ∈ names,
      (ad.get? name).map Expr.canonical = (other.get? name).map Expr.canonical)
    (spelled : e.canonical = e'.canonical) : ad.eval e = other.eval e' := by
  calc
    ad.eval e = other.eval e := by
      apply Expr.evalIn_congr
      intro name named
      exact readAt_eq_of_agree reaches.onward agree maxDepth (reaches.direct name named)
    _ = e.canonical.evalIn (other.readAt maxDepth) := (other.evalIn_canonical ..).symm
    _ = other.eval e' := by rw [spelled, evalIn_canonical, eval]

/-- Ads that agree on what an expression reaches give it the same value, and so do ads that differ
in the spelling of names and of references only, to expressions that do. -/
theorem eval_reads_reachable_in_any_spelling (ad other : JobAd) (e : Expr) :
    (∀ names : Set String, ad.Reaches e names →
      (∀ name ∈ names, ad.get? name = other.get? name) → ad.eval e = other.eval e) ∧
    ∀ e' : Expr, e.canonical = e'.canonical → ad.canonical = other.canonical →
      ad.eval e = other.eval e' := by
  constructor
  · intro names reaches agree
    refine eval_eq_of_agree reaches ?_ rfl
    intro name member
    rw [agree name member]
  · intro e' spelled alike
    have everything : ad.Reaches e Set.univ :=
      ⟨fun _ _ => Set.mem_univ _, fun _ _ _ _ _ _ => Set.mem_univ _⟩
    refine eval_eq_of_agree everything ?_ spelled
    intro name _
    rw [← get?_canonical, ← get?_canonical, alike]

def padded : JobAd :=
  (empty.bind "Padded" (.target "Size" + .int 1)).bind "Size" (.named "PADDED")

def paddedSmall : JobAd :=
  (empty.bind "padded" (.named "size" + .int 1)).bind "size" (.target "padded")

theorem reaches_padded : padded.Reaches (.named "Padded") {"padded", "size"} where
  direct := by decide +kernel
  onward := by
    rintro name (rfl | rfl) bound found
    all_goals
      rw [padded, get?_bind, get?_bind] at found
      cases found
      decide +kernel

/-- Attributes that refer to each other in a circle have the same values beside another attribute
and in small letters. -/
theorem eval_padded_eq :
    padded.eval (.named "Padded") = (padded.assign "Owner" .undefined).eval (.named "Padded") ∧
      padded.eval (.named "Padded") = paddedSmall.eval (.target "padded") := by
  have reads := eval_reads_reachable_in_any_spelling padded
  constructor
  · refine (reads _ (.named "Padded")).1 _ reaches_padded ?_
    rintro name (rfl | rfl)
    all_goals
      rw [assign, get?_bind, if_neg (by decide +kernel)]
  · have outer : Text.foldCase "Padded" = Text.foldCase "padded" := by decide +kernel
    have inner : Text.foldCase "Size" = Text.foldCase "size" := by decide +kernel
    have sum : (Expr.target "Size" + .int 1).canonical = (Expr.named "size" + .int 1).canonical :=
      congrArg (fun name => Expr.named name + .int 1) inner
    have back : (Expr.named "PADDED").canonical = (Expr.target "padded").canonical :=
      congrArg Expr.named (by decide +kernel)
    refine (reads _ (.named "Padded")).2 _ (congrArg Expr.named outer) ?_
    rw [padded, paddedSmall, canonical_bind, canonical_bind, canonical_bind, canonical_bind,
      outer, inner, sum, back]

end JobAd

end RoutingPolicy

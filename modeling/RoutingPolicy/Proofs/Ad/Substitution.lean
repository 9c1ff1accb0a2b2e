import Mathlib.Logic.ExistsUnique
import RoutingPolicy.Proofs.Ad.References

/-!
# Evaluation as substitution

Where references go down in rank, the attributes of an ad can be written out: what stands for a name
is the bound expression, with what stands for its own references put in. An expression that is
written out refers to nothing, so its value is a matter of no ad, and it is the value that the ad
gives. The limit on the depth of references is met by ranks, and a chain of just so many attributes
as there are ranks still has its value.
-/

set_option autoImplicit false

namespace RoutingPolicy

namespace JobAd

/-- What stands for the names: a bound expression with its own references replaced in the same way,
and undefined where nothing is bound. -/
def WritesOut (ad : JobAd) (expansion : String → Expr) : Prop :=
  ∀ name, expansion name = match ad.get? name with
    | some e => e.replaced expansion
    | none => .lit .undefined

/-- All names are ranked below 32, and bound expressions refer to names of lower rank only. -/
structure Ranked (ad : JobAd) (rank : String → Nat) : Prop where
  below : ∀ name, rank name < 32
  descends : ∀ name e, ad.get? name = some e → ∀ next ∈ e.names, rank next < rank name

/-- The names written out as far as references to ranks below a bound go. -/
def writtenBelow (ad : JobAd) : Nat → String → Expr
  | 0, _ => .lit .undefined
  | bound + 1, name =>
    match ad.get? name with
    | some e => e.replaced (ad.writtenBelow bound)
    | none => .lit .undefined

variable {ad : JobAd} {rank : String → Nat} {expansion expansion' : String → Expr}

namespace Ranked

/-- What follows for a name from the names that its expression refers to holds of all names. -/
theorem induction_on {Holds : String → Prop} (ranked : ad.Ranked rank)
    (step : ∀ name, (∀ e, ad.get? name = some e → ∀ next ∈ e.names, Holds next) → Holds name)
    (name : String) : Holds name := by
  apply step name
  intro e bound next named
  have lower := ranked.descends name e bound next named
  exact ranked.induction_on step next
termination_by rank name

theorem writtenBelow_eq (ranked : ad.Ranked rank) {bound bound' : Nat} {name : String}
    (low : rank name < bound) (low' : rank name < bound') :
    ad.writtenBelow bound name = ad.writtenBelow bound' name := by
  induction bound generalizing bound' name with
  | zero => omega
  | succ bound induction =>
      obtain ⟨bound', rfl⟩ := Nat.exists_eq_add_one_of_ne_zero (Nat.ne_zero_of_lt low')
      rw [writtenBelow, writtenBelow]
      cases found : ad.get? name with
      | none => rfl
      | some e =>
          apply Expr.replaced_congr
          intro next named
          have lower := ranked.descends name e found next named
          exact induction (by omega) (by omega)

theorem writesOut (ranked : ad.Ranked rank) :
    ad.WritesOut fun name => ad.writtenBelow (rank name + 1) name := by
  intro name
  change ad.writtenBelow (rank name + 1) name = _
  rw [writtenBelow]
  cases found : ad.get? name with
  | none => rfl
  | some e =>
      apply Expr.replaced_congr
      intro next named
      exact ranked.writtenBelow_eq (ranked.descends name e found next named) (Nat.lt_succ_self _)

theorem eq_of_writesOut (ranked : ad.Ranked rank) (writes : ad.WritesOut expansion)
    (writes' : ad.WritesOut expansion') (name : String) : expansion name = expansion' name := by
  induction name using ranked.induction_on with
  | step name same =>
      rw [writes, writes']
      cases found : ad.get? name with
      | none => rfl
      | some e => exact Expr.replaced_congr e (same e found)

theorem names_expansion (ranked : ad.Ranked rank) (writes : ad.WritesOut expansion)
    (name : String) : (expansion name).names = [] := by
  induction name using ranked.induction_on with
  | step name closed =>
      rw [writes]
      cases found : ad.get? name with
      | none => rfl
      | some e =>
          rw [Expr.names_replaced, List.flatMap_eq_nil_iff]
          exact closed e found

theorem readAt_eq (ranked : ad.Ranked rank) (writes : ad.WritesOut expansion) {depth : Nat}
    {name : String} (low : rank name < depth) :
    ad.readAt depth name = empty.eval (expansion name) := by
  induction depth generalizing name with
  | zero => omega
  | succ depth induction =>
      rw [readAt, writes]
      cases found : ad.get? name with
      | none => rfl
      | some e =>
          rw [eval, Expr.evalIn_replaced]
          apply Expr.evalIn_congr
          intro next named
          have lower := ranked.descends name e found next named
          exact induction (by omega)

end Ranked

/-- Where references go down in rank, the names can be written out in exactly one way, every
expression becomes closed by that and keeps its value, and deeper references would not change it. -/
theorem eval_eq_eval_written_out (ad : JobAd) (rank : String → Nat) (ranked : ad.Ranked rank) :
    (∃! expansion, ad.WritesOut expansion) ∧
      ∀ expansion, ad.WritesOut expansion → ∀ e : Expr, (e.replaced expansion).names = [] ∧
        ad.eval e = empty.eval (e.replaced expansion) ∧
          ∀ depth, 32 ≤ depth → e.evalIn (ad.readAt depth) = ad.eval e := by
  constructor
  · refine ⟨_, ranked.writesOut, ?_⟩
    intro expansion writes
    exact funext (ranked.eq_of_writesOut writes ranked.writesOut)
  intro expansion writes e
  have value : ∀ depth, 32 ≤ depth →
      e.evalIn (ad.readAt depth) = empty.eval (e.replaced expansion) := by
    intro depth deep
    rw [eval, Expr.evalIn_replaced]
    apply Expr.evalIn_congr
    intro name _
    exact ranked.readAt_eq writes (Nat.lt_of_lt_of_le (ranked.below name) deep)
  refine ⟨?_, value 32 (Nat.le_refl _), ?_⟩
  · rw [Expr.names_replaced, List.flatMap_eq_nil_iff]
    intro name _
    exact ranked.names_expansion writes name
  · intro depth deep
    rw [value depth deep]
    exact (value 32 (Nat.le_refl _)).symm

def chainName (i : Nat) : String := "A" ++ Integer.natText i

/-- A chain of references, each attribute one more than the one before it. -/
def chain : Nat → JobAd
  | 0 => empty.assign (chainName 0) (.int 0)
  | i + 1 => (chain i).bind (chainName (i + 1)) (.named (chainName i) + .int 1)

def chainRank (name : String) : Nat :=
  (List.range 31).findIdx fun i => Text.sameIgnoringCase name (chainName i)

theorem chainRank_foldCase (name : String) : chainRank (Text.foldCase name) = chainRank name := by
  simp only [chainRank, Text.sameIgnoringCase, Text.foldCase_foldCase]

theorem ranked_chain : (chain 31).Ranked chainRank where
  below name := by
    have bounded : chainRank name ≤ (List.range 31).length := List.findIdx_le_length
    rw [List.length_range] at bounded
    exact Nat.lt_succ_of_le bounded
  descends name e found next named := by
    have entries : ∀ entry ∈ (chain 31).entries.entries, ∀ next ∈ entry.2.expr.names,
        chainRank next < chainRank entry.1 := by
      decide +kernel
    obtain ⟨b, stored, rfl⟩ := Option.map_eq_some_iff.1 found
    rw [← chainRank_foldCase name]
    exact entries _ (SortedMap.get?_eq_some_iff.1 stored) next named

/-- The last of 32 attributes that refer to each other has the value of a closed sum. -/
theorem eval_chain_eq :
    (chain 31).Ranked chainRank ∧ ∃ expansion, (chain 31).WritesOut expansion ∧
      (chain 31).eval (.named "a31") = empty.eval ((Expr.named "a31").replaced expansion) ∧
        ((chain 31).eval (.named "a31")).identical (.int 31) = true := by
  have written := eval_eq_eval_written_out (chain 31) chainRank ranked_chain
  obtain ⟨expansion, writes, _⟩ := written.1
  exact ⟨ranked_chain, expansion, writes, (written.2 expansion writes (.named "a31")).2.1,
    by decide +kernel⟩

end JobAd

end RoutingPolicy

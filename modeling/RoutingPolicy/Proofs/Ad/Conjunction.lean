import RoutingPolicy.Proofs.Ad.Reading

/-!
# Guards as sets of conditions

Which ads a guard accepts depends on the set of its conditions only, whatever their order, their
repetition and the conjunctions that they are grouped into: a conjunction is true of exactly the ads
that both its sides are true of, and the same goes for being true or undefined. The value that a
guard has elsewhere is another matter. A false condition hides an error behind it and an error hides
a false condition, so the order decides which of the two is seen.
-/

set_option autoImplicit false

namespace RoutingPolicy

/-! ### Conditions -/

namespace Expr

/-- The conditions that an expression joins: those of both sides of a conjunction, and any other
expression itself. -/
def conditions : Expr → List Expr
  | binary .both left right => conditions left ++ conditions right
  | e => [e]

variable {Holds : Expr → Prop}

theorem Distributes.forall_conditions_iff (distributes : Distributes Holds) (e : Expr) :
    (∀ c ∈ e.conditions, Holds c) ↔ Holds e := by
  fun_induction conditions e with
  | case1 left right first second =>
      rw [List.forall_mem_append, first, second]
      exact (distributes.both left right).symm
  | case2 e _ => exact List.forall_mem_singleton

end Expr

namespace Guard

variable {Holds : Expr → Prop} {g g' g'' : Guard}

def conditions (g : Guard) : List Expr := g.clauses.flatMap Expr.conditions

theorem forall_conditions_iff (distributes : Expr.Distributes Holds) (g : Guard) :
    (∀ c ∈ g.conditions, Holds c) ↔ Holds g.expr := by
  rw [← forall_clauses_iff distributes, conditions, List.forall_mem_flatMap]
  simp only [distributes.forall_conditions_iff]

/-! ### Arrangements of conditions -/

/-- The guards have the same conditions, in whatever order, repetition and grouping. -/
def SameConditions (g g' : Guard) : Prop := ∀ c, c ∈ g.conditions ↔ c ∈ g'.conditions

theorem SameConditions.trans (first : g.SameConditions g') (second : g'.SameConditions g'') :
    g.SameConditions g'' :=
  fun c => (first c).trans (second c)

theorem SameConditions.iff_of_distributes (same : g.SameConditions g')
    (distributes : Expr.Distributes Holds) : Holds g.expr ↔ Holds g'.expr := by
  rw [← forall_conditions_iff distributes, ← forall_conditions_iff distributes]
  exact forall_congr' fun c => imp_congr_left (same c)

theorem sameConditions_of_perm (permuted : g.clauses.Perm g'.clauses) : g.SameConditions g' :=
  fun _ => (permuted.flatMap_right Expr.conditions).mem_iff

theorem sameConditions_repeated {clause : Expr} (present : clause ∈ g.clauses) :
    g.SameConditions ⟨clause :: g.clauses⟩ := by
  intro c
  have own : c ∈ clause.conditions → c ∈ g.conditions :=
    fun member => List.mem_flatMap.2 ⟨clause, present, member⟩
  rw [conditions, conditions, List.flatMap_cons, List.mem_append]
  exact (or_iff_right_of_imp own).symm

theorem sameConditions_grouped (earlier later : List Expr) (a b : Expr) :
    SameConditions ⟨earlier ++ a :: b :: later⟩ ⟨earlier ++ .both a b :: later⟩ := by
  intro c
  simp [conditions, Expr.conditions, Expr.both]

end Guard

/-! ### Values of conjunctions -/

namespace JobAd

/-- Whether the expression is true or undefined. -/
def MayHold (ad : JobAd) (e : Expr) : Prop := ad.eval e = .bool true ∨ ad.eval e = .undefined

theorem distributes_mayHold (ad : JobAd) : Expr.Distributes ad.MayHold where
  empty := .inl rfl
  both a b := by
    simp only [MayHold, eval, Expr.both, Expr.evalIn]
    generalize a.evalIn (ad.readAt maxDepth) = left
    generalize b.evalIn (ad.readAt maxDepth) = right
    cases left with
    | bool truth =>
        cases truth
        · simp
        · cases right <;> simp [Value.afterTrue]
    | undefined =>
        cases right with
        | bool truth => cases truth <;> simp [Value.afterUndefined]
        | _ => simp [Value.afterUndefined]
    | _ => simp

end JobAd

/-! ### Guards that hold -/

namespace Guard

theorem eval_eq_undefined_iff {g : Guard} {ad : JobAd} :
    g.eval ad = .undefined ↔ ad.MayHold g.expr ∧ ¬ ad.eval g.expr = .bool true := by
  rw [eval, JobAd.MayHold]
  constructor
  · intro unknown
    simp [unknown]
  · intro held
    exact held.1.resolve_left held.2

/-- A guard holds of the ads that all its clauses are true of, so that guards of the same conditions
hold of the same ads and are undefined on the same ads. Where they are neither, one may be false and
the other error, whatever the ad. -/
theorem holds_regardless_of_arrangement (g : Guard) (ad : JobAd) :
    (g.holds ad = true ↔ ∀ clause ∈ g.clauses, ad.eval clause = .bool true) ∧
      (∀ g' : Guard, g.SameConditions g' →
        g'.holds ad = g.holds ad ∧ (g'.eval ad = .undefined ↔ g.eval ad = .undefined)) ∧
      ∃ g₁ g₂ : Guard, g₁.clauses.Perm g₂.clauses ∧
        g₁.eval ad = .bool false ∧ g₂.eval ad = .error := by
  refine ⟨holds_iff, ?_, ?_⟩
  · intro g' same
    have sameTrue := same.iff_of_distributes ad.distributes_true
    have sameMayHold := same.iff_of_distributes ad.distributes_mayHold
    constructor
    · rw [Bool.eq_iff_iff, holds, holds, Value.isTrue_iff, Value.isTrue_iff]
      exact sameTrue.symm
    · rw [eval_eq_undefined_iff, eval_eq_undefined_iff, sameTrue, sameMayHold]
  · exact ⟨⟨[.bool false, .lit .error]⟩, ⟨[.lit .error, .bool false]⟩, .swap _ _ _, rfl, rfl⟩

/-- Two conditions stay the same when the first is repeated, its repetition is joined with the
second one and the two clauses trade places. -/
theorem holds_regardless_of_arrangement_of_small :
    let small := Expr.compareTo (.order .lt) (.plain "RequestMemory") (.int 2000)
    let fresh := Expr.flagIsNotTrue (.plain "HasBeenResized")
    let guard : Guard := ⟨[small, fresh]⟩
    let arranged : Guard := ⟨[.both small fresh, small]⟩
    let job := JobAd.empty.assign "RequestMemory" (.int 1000)
    guard.SameConditions arranged ∧ (guard.holds job = true ∧ arranged.holds job = true) ∧
      guard.eval .empty = .undefined ∧ arranged.eval .empty = .undefined := by
  intro small fresh guard arranged job
  have repeated : guard.SameConditions ⟨[small, small, fresh]⟩ :=
    sameConditions_repeated (List.mem_cons_self ..)
  have grouped : SameConditions ⟨[small, small, fresh]⟩ ⟨[small, .both small fresh]⟩ :=
    sameConditions_grouped [small] [] small fresh
  have permuted : SameConditions ⟨[small, .both small fresh]⟩ arranged :=
    sameConditions_of_perm (.swap _ _ _)
  have same : guard.SameConditions arranged := (repeated.trans grouped).trans permuted
  have held : guard.holds job = true := by decide +kernel
  have unknown : guard.eval .empty = .undefined := rfl
  have onJob := (holds_regardless_of_arrangement guard job).2.1 arranged same
  have onEmpty := (holds_regardless_of_arrangement guard .empty).2.1 arranged same
  exact ⟨same, ⟨held, onJob.1.trans held⟩, unknown, onEmpty.2.2 unknown⟩

end Guard

end RoutingPolicy

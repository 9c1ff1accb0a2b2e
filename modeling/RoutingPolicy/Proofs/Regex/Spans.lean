import Mathlib
import RoutingPolicy.Regex.Basic

/-!
# What a regular expression matches

An expression relates the positions of a text: `Spans` says from where to where it can read. By
`reaches_ends_iff` the matcher reaches exactly the ends of what the expression reads from the given
beginnings, and by `isMatch_iff` a text matches when the expression reads some part of it.

The matcher steps on from new positions only. A position is new at the least number of steps that
lead to it, its level; what any number of steps reaches is reached by one step from a position of
some level, and there are no more levels than positions.
-/

namespace RoutingPolicy

set_option autoImplicit false

namespace Regex

def Chain (R : Nat → Nat → Prop) : Nat → Nat → Nat → Prop
  | 0, i, k => i = k
  | count + 1, i, k => ∃ j, R i j ∧ Chain R count j k

def before? (text : List Char) : Nat → Option Char
  | 0 => none
  | i + 1 => text[i]?

/-- An expression can read the part of a text between two positions. -/
def Spans (text : List Char) : Regex → Nat → Nat → Prop
  | empty, i, k => i = k
  | one set, i, k => k = i + 1 ∧ ∃ c, text[i]? = some c ∧ set.contains c = true
  | look condition, i, k => i = k ∧ condition.holds (before? text i) text[i]? = true
  | cat a b, i, k => ∃ j, Spans text a i j ∧ Spans text b j k
  | alt a b, i, k => Spans text a i k ∨ Spans text b i k
  | repeated _ min max a, i, k =>
    ∃ extra, (∀ bound ∈ max, extra ≤ bound - min) ∧ Chain (Spans text a) (min + extra) i k
  | group _ a, i, k => Spans text a i k

section Chains

variable {R : Nat → Nat → Prop} {m n i k : Nat}

theorem chain_add_iff : Chain R (m + n) i k ↔ ∃ j, Chain R m i j ∧ Chain R n j k := by
  induction m generalizing i with
  | zero => simp [Chain]
  | succ m induction =>
      rw [Nat.add_right_comm]
      simp only [Chain, induction]
      constructor
      · rintro ⟨j, first, l, steps, rest⟩
        exact ⟨l, ⟨j, first, steps⟩, rest⟩
      · rintro ⟨l, ⟨j, first, steps⟩, rest⟩
        exact ⟨j, first, l, steps, rest⟩

theorem chain_succ_iff : Chain R (n + 1) i k ↔ ∃ j, Chain R n i j ∧ R j k := by
  rw [chain_add_iff]
  simp [Chain]

end Chains

/-! ### Positions -/

def Reaches (positions : Positions) (k : Nat) : Prop := positions[k]? = some true

section Reaching

variable {a b : Positions} {k : Nat}

theorem Reaches.lt (reached : Reaches a k) : k < a.length :=
  (List.getElem?_eq_some_iff.1 reached).1

theorem reaches_zipWith_iff {f : Bool → Bool → Bool} (same : a.length = b.length)
    (ofFalse : f false false = false) : Reaches (List.zipWith f a b) k ↔
      f (a[k]? == some true) (b[k]? == some true) = true := by
  rw [Reaches, List.getElem?_zipWith]
  cases left : a[k]? with
  | none =>
      have right : b[k]? = none := by
        rw [List.getElem?_eq_none_iff] at left ⊢
        omega
      simp [right, ofFalse]
  | some x =>
      cases right : b[k]? with
      | none =>
          rw [List.getElem?_eq_none_iff] at right
          have := (List.getElem?_eq_some_iff.1 left).1
          omega
      | some y => cases x <;> cases y <;> simp

theorem reaches_union_iff (same : a.length = b.length) :
    Reaches (a.union b) k ↔ Reaches a k ∨ Reaches b k := by
  rw [Positions.union, reaches_zipWith_iff same rfl]
  simp [Reaches]

theorem reaches_minus_iff (same : a.length = b.length) :
    Reaches (a.minus b) k ↔ Reaches a k ∧ ¬ Reaches b k := by
  rw [Positions.minus, reaches_zipWith_iff same rfl]
  simp [Reaches]

theorem reaches_inter_iff (same : a.length = b.length) :
    Reaches (a.inter b) k ↔ Reaches a k ∧ Reaches b k := by
  rw [Positions.inter, reaches_zipWith_iff same rfl]
  simp [Reaches]

theorem not_reaches_nowhere : ¬ Reaches a.nowhere k := by
  simp [Reaches, Positions.nowhere, List.getElem?_replicate]

theorem any_id_iff : a.any id = true ↔ ∃ k, Reaches a k := by
  rw [List.any_eq_true]
  simp only [id_eq, exists_eq_right, Reaches]
  exact List.mem_iff_getElem?

theorem reaches_every_iff {text : List Char} :
    Reaches (Positions.every text) k ↔ k ≤ text.length := by
  rw [Reaches, Positions.every, List.getElem?_replicate]
  simp

theorem reaches_advance_iff {set : CharSet} {text : List Char} {starts : Positions} {k : Nat} :
    Reaches (Positions.advance set text starts) k ↔
      ∃ j, k = j + 1 ∧ Reaches starts j ∧ ∃ c, text[j]? = some c ∧ set.contains c = true := by
  cases k with
  | zero => simp [Reaches, Positions.advance]
  | succ j =>
      simp only [Reaches, Positions.advance, List.getElem?_cons_succ, List.getElem?_zipWith]
      constructor
      · intro reached
        refine ⟨j, rfl, ?_⟩
        cases start : starts[j]? with
        | none => simp [start] at reached
        | some own =>
            cases read : text[j]? with
            | none => simp [start, read] at reached
            | some c =>
                rw [start, read] at reached
                obtain ⟨rfl, held⟩ : own = true ∧ set.contains c = true := by simpa using reached
                exact ⟨rfl, c, rfl, held⟩
      · intro before
        rcases before with ⟨i, next, start, c, read, held⟩
        obtain rfl : j = i := Nat.succ.inj next
        simp [start, read, held]

theorem length_satisfying (condition : Look) (before : Option Char) (text : List Char) :
    (Positions.satisfying condition before text).length = text.length + 1 := by
  induction text generalizing before with
  | nil => rfl
  | cons c rest induction => simp [Positions.satisfying, induction]

theorem getElem?_satisfying (condition : Look) (before : Option Char) (text : List Char)
    (within : k ≤ text.length) : (Positions.satisfying condition before text)[k]? =
      some (condition.holds (if k = 0 then before else text[k - 1]?) text[k]?) := by
  induction text generalizing before k with
  | nil =>
      obtain rfl : k = 0 := Nat.le_zero.1 within
      rfl
  | cons c rest induction =>
      cases k with
      | zero => rfl
      | succ k =>
          rw [Positions.satisfying, List.getElem?_cons_succ,
            induction (some c) (Nat.le_of_succ_le_succ within)]
          cases k <;> simp

theorem reaches_satisfying_iff {condition : Look} {text : List Char} :
    Reaches (Positions.satisfying condition none text) k ↔
      k ≤ text.length ∧ condition.holds (before? text k) text[k]? = true := by
  by_cases within : k ≤ text.length
  · rw [Reaches, getElem?_satisfying condition none text within]
    cases k <;> simp [before?, within]
  · have outside : (Positions.satisfying condition none text)[k]? = none := by
      rw [List.getElem?_eq_none_iff, length_satisfying]
      omega
    simp [Reaches, outside, within]

end Reaching

/-! ### Steps -/

/-- A function on positions takes one step of a relation from each of them. -/
structure Computes (n : Nat) (step : Positions → Positions) (R : Nat → Nat → Prop) : Prop where
  length {starts : Positions} (fits : starts.length = n) : (step starts).length = n
  reaches {starts : Positions} (fits : starts.length = n) {k : Nat} :
    Reaches (step starts) k ↔ ∃ i, Reaches starts i ∧ R i k

section Stepping

variable {n : Nat} {step : Positions → Positions} {R : Nat → Nat → Prop}

theorem Computes.repeat (computes : Computes n step R) (count : Nat) :
    Computes n (Nat.repeat step count) (Chain R count) := by
  induction count with
  | zero => exact ⟨fun fits => fits, fun _ => by simp [Nat.repeat, Chain]⟩
  | succ count induction =>
      have front (starts : Positions) :
          Nat.repeat step (count + 1) starts = Nat.repeat step count (step starts) :=
        (Positions.repeat_step step count starts).symm
      constructor
      · intro starts fits
        rw [front]
        exact induction.length (computes.length fits)
      · intro starts fits k
        rw [front, induction.reaches (computes.length fits)]
        simp only [computes.reaches fits, Chain]
        constructor
        · rintro ⟨j, ⟨i, start, first⟩, rest⟩
          exact ⟨i, start, j, first, rest⟩
        · rintro ⟨i, start, j, first, rest⟩
          exact ⟨j, ⟨i, start, first⟩, rest⟩

theorem Computes.iterate (computes : Computes n step R) (count : Nat) :
    Computes n (Positions.iterate step count) (Chain R count) := by
  have same : Positions.iterate step count = Nat.repeat step count :=
    funext fun starts => Positions.iterate_eq_repeat step count starts
  rw [same]
  exact computes.repeat count

/-- So many steps lead from a beginning to a position. -/
def Distant (R : Nat → Nat → Prop) (starts : Positions) (m p : Nat) : Prop :=
  ∃ i, Reaches starts i ∧ Chain R m i p

/-- The number of steps is the least that leads to the position. -/
def AtLevel (R : Nat → Nat → Prop) (starts : Positions) (m p : Nat) : Prop :=
  Distant R starts m p ∧ ∀ l < m, ¬ Distant R starts l p

variable {starts : Positions} {m p k : Nat}

theorem distant_zero_iff : Distant R starts 0 p ↔ Reaches starts p := by
  simp [Distant, Chain]

theorem distant_succ_iff :
    Distant R starts (m + 1) k ↔ ∃ p, Distant R starts m p ∧ R p k := by
  simp only [Distant, chain_succ_iff]
  constructor
  · rintro ⟨i, start, p, chain, last⟩
    exact ⟨p, ⟨i, start, chain⟩, last⟩
  · rintro ⟨p, ⟨i, start, chain⟩, last⟩
    exact ⟨i, start, p, chain, last⟩

theorem exists_atLevel (distant : Distant R starts m p) : ∃ l ≤ m, AtLevel R starts l p := by
  induction m using Nat.strongRecOn with
  | ind m induction =>
      by_cases least : ∀ l < m, ¬ Distant R starts l p
      · exact ⟨m, le_rfl, distant, least⟩
      · push Not at least
        obtain ⟨l, less, sooner⟩ := least
        obtain ⟨level, low, there⟩ := induction l less sooner
        exact ⟨level, low.trans less.le, there⟩

theorem AtLevel.eq_of_atLevel {l : Nat} (first : AtLevel R starts m p)
    (second : AtLevel R starts l p) : m = l := by
  rcases Nat.lt_trichotomy m l with less | same | more
  · exact absurd first.1 (second.2 m less)
  · exact same
  · exact absurd second.1 (first.2 l more)

theorem AtLevel.exists_step (there : AtLevel R starts (m + 1) k) :
    ∃ p, AtLevel R starts m p ∧ R p k := by
  obtain ⟨p, distant, last⟩ := distant_succ_iff.1 there.1
  refine ⟨p, ⟨distant, ?_⟩, last⟩
  intro l less sooner
  exact there.2 (l + 1) (Nat.succ_lt_succ less) (distant_succ_iff.2 ⟨p, sooner, last⟩)

theorem AtLevel.exists_below (there : AtLevel R starts m p) {l : Nat} (below : l ≤ m) :
    ∃ q, AtLevel R starts l q := by
  induction m generalizing p with
  | zero => exact ⟨p, Nat.le_zero.1 below ▸ there⟩
  | succ m induction =>
      rcases Nat.le_succ_iff.1 below with low | rfl
      · obtain ⟨q, lower, -⟩ := there.exists_step
        exact induction lower low
      · exact ⟨p, there⟩

/-- Every level up to that of a position has a position of its own. -/
theorem AtLevel.lt (computes : Computes n step R) (fits : starts.length = n)
    (there : AtLevel R starts m p) : m < n := by
  have within {l q : Nat} (level : AtLevel R starts l q) : q < n := by
    have reached := ((computes.repeat l).reaches fits).2 level.1
    rw [← (computes.repeat l).length fits]
    exact reached.lt
  choose place level using fun l : Fin (m + 1) => there.exists_below (Nat.le_of_lt_succ l.2)
  let own (l : Fin (m + 1)) : Fin n := ⟨place l, within (level l)⟩
  have distinct : Function.Injective own := by
    intro l l' same
    have samePlace : place l = place l' := congrArg Fin.val same
    exact Fin.ext ((level l).eq_of_atLevel (samePlace ▸ level l'))
  simpa using Fintype.card_le_of_injective own distinct

theorem Computes.length_onward (computes : Computes n step R) (fuel : Nat)
    {seen frontier : Positions} (seenFits : seen.length = n) (fits : frontier.length = n) :
    (Positions.onward step fuel seen frontier).length = n := by
  induction fuel generalizing seen frontier with
  | zero => simpa [Positions.onward, Positions.nowhere] using fits
  | succ fuel induction =>
      have next := computes.length fits
      have fresh : ((step frontier).minus seen).length = n := by
        simp [Positions.minus, next, seenFits]
      rw [Positions.onward]
      split
      · rw [Positions.union, List.length_zipWith, next,
          induction (by simp [Positions.union, seenFits, fresh]) fresh, Nat.min_self]
      · exact next

theorem exists_le_succ_distant_iff : (∃ l ≤ m + 1, Distant R starts l p) ↔
    (∃ l ≤ m, Distant R starts l p) ∨ AtLevel R starts (m + 1) p := by
  constructor
  · rintro ⟨l, low, distant⟩
    obtain ⟨least, below, level⟩ := exists_atLevel distant
    rcases Nat.le_succ_iff.1 (below.trans low) with less | rfl
    · exact .inl ⟨least, less, level.1⟩
    · exact .inr level
  · rintro (⟨l, low, distant⟩ | level)
    · exact ⟨l, low.trans (Nat.le_succ m), distant⟩
    · exact ⟨m + 1, le_rfl, level.1⟩

/-- The matcher is at level `m`: it saw the positions up to that level, and steps on from those of
the level itself. -/
structure Stands (n : Nat) (R : Nat → Nat → Prop) (starts : Positions) (m : Nat)
    (seen frontier : Positions) : Prop where
  seen_length : seen.length = n
  frontier_length : frontier.length = n
  seen_iff : ∀ p, Reaches seen p ↔ ∃ l ≤ m, Distant R starts l p
  frontier_iff : ∀ p, Reaches frontier p ↔ AtLevel R starts m p

theorem stands_start (fits : starts.length = n) : Stands n R starts 0 starts starts where
  seen_length := fits
  frontier_length := fits
  seen_iff _ := by simp [distant_zero_iff]
  frontier_iff _ := by simp [AtLevel, distant_zero_iff]

theorem Stands.reaches_step_iff {seen frontier : Positions} (computes : Computes n step R)
    (stands : Stands n R starts m seen frontier) :
    Reaches (step frontier) k ↔ ∃ p, AtLevel R starts m p ∧ R p k := by
  simp [computes.reaches stands.frontier_length, stands.frontier_iff]

theorem Stands.next {seen frontier : Positions} (computes : Computes n step R)
    (stands : Stands n R starts m seen frontier) : Stands n R starts (m + 1)
      (seen.union ((step frontier).minus seen)) ((step frontier).minus seen) := by
  have stepped := computes.length stands.frontier_length
  have fits : ((step frontier).minus seen).length = n := by
    simp [Positions.minus, stepped, stands.seen_length]
  have fresh (p : Nat) :
      Reaches ((step frontier).minus seen) p ↔ AtLevel R starts (m + 1) p := by
    rw [reaches_minus_iff (stepped.trans stands.seen_length.symm),
      stands.reaches_step_iff computes, stands.seen_iff]
    constructor
    · rintro ⟨⟨q, level, last⟩, unseen⟩
      refine ⟨distant_succ_iff.2 ⟨q, level.1, last⟩, fun l less sooner => ?_⟩
      exact unseen ⟨l, Nat.le_of_lt_succ less, sooner⟩
    · rintro level
      refine ⟨level.exists_step, ?_⟩
      rintro ⟨l, low, sooner⟩
      exact level.2 l (Nat.lt_succ_of_le low) sooner
  refine ⟨by simp [Positions.union, stands.seen_length, fits], fits, fun p => ?_, fresh⟩
  rw [reaches_union_iff (stands.seen_length.trans fits.symm), stands.seen_iff, fresh,
    exists_le_succ_distant_iff]

theorem Stands.reaches_onward_iff {seen frontier : Positions} (computes : Computes n step R)
    (fuel : Nat) (stands : Stands n R starts m seen frontier) :
    Reaches (Positions.onward step fuel seen frontier) k ↔
      ∃ l < fuel, ∃ p, AtLevel R starts (m + l) p ∧ R p k := by
  induction fuel generalizing m seen frontier with
  | zero => simp [Positions.onward, not_reaches_nowhere]
  | succ fuel induction =>
      have next := stands.next computes
      have stepped := computes.length stands.frontier_length
      -- The level itself, and those behind it, if the next one has any position.
      rw [Positions.onward, Nat.exists_lt_succ_left, Nat.add_zero]
      simp only [← Nat.add_assoc, Nat.add_right_comm m _ 1]
      split
      · have further := computes.length_onward fuel next.seen_length next.frontier_length
        rw [reaches_union_iff (stepped.trans further.symm), stands.reaches_step_iff computes,
          induction next]
      · next none =>
        rw [any_id_iff, not_exists] at none
        rw [stands.reaches_step_iff computes, or_iff_left]
        rintro ⟨l, -, p, level, -⟩
        obtain ⟨q, new⟩ := level.exists_below (Nat.le_add_right (m + 1) l)
        exact none q ((next.frontier_iff q).2 new)

theorem Computes.reaches_onward (computes : Computes n step R) (fuel : Nat)
    (fits : starts.length = n) :
    Reaches (Positions.onward step fuel starts starts) k ↔
      ∃ l < fuel, Distant R starts (l + 1) k := by
  rw [(stands_start fits).reaches_onward_iff computes fuel]
  simp only [Nat.zero_add]
  constructor
  · rintro ⟨l, less, p, level, last⟩
    exact ⟨l, less, distant_succ_iff.2 ⟨p, level.1, last⟩⟩
  · rintro ⟨l, less, distant⟩
    obtain ⟨p, sooner, last⟩ := distant_succ_iff.1 distant
    obtain ⟨least, below, level⟩ := exists_atLevel sooner
    exact ⟨least, below.trans_lt less, p, level, last⟩

/-- As many steps as there are positions reach whatever any number reaches. -/
theorem Computes.reaches_onward_unbounded (computes : Computes n step R) {fuel : Nat}
    (enough : n ≤ fuel) (fits : starts.length = n) :
    Reaches (Positions.onward step fuel starts starts) k ↔ ∃ l, Distant R starts (l + 1) k := by
  rw [computes.reaches_onward fuel fits]
  constructor
  · rintro ⟨l, -, distant⟩
    exact ⟨l, distant⟩
  · rintro ⟨l, distant⟩
    obtain ⟨p, sooner, last⟩ := distant_succ_iff.1 distant
    obtain ⟨least, -, level⟩ := exists_atLevel sooner
    exact ⟨least, (level.lt computes fits).trans_le enough,
      distant_succ_iff.2 ⟨p, level.1, last⟩⟩

end Stepping

/-! ### Matching -/

section Matching

variable {text : List Char} {starts : Positions} {k : Nat}

theorem Computes.distant_iterate_iff {n : Nat} {step : Positions → Positions}
    {R : Nat → Nat → Prop} (computes : Computes n step R) (fits : starts.length = n)
    (count more : Nat) : Distant R (Positions.iterate step count starts) more k ↔
      ∃ i, Reaches starts i ∧ Chain R (count + more) i k := by
  simp only [Distant, (computes.iterate count).reaches fits, chain_add_iff]
  constructor
  · rintro ⟨j, ⟨i, start, first⟩, rest⟩
    exact ⟨i, start, j, first, rest⟩
  · rintro ⟨i, start, j, first, rest⟩
    exact ⟨j, ⟨i, start, first⟩, rest⟩

theorem exists_chain_iff {R : Nat → Nat → Prop} {count : Nat} (isAllowed : Nat → Prop)
    (zero : isAllowed 0) : (∃ i, Reaches starts i ∧ ∃ extra, isAllowed extra ∧
      Chain R (count + extra) i k) ↔ (∃ i, Reaches starts i ∧ Chain R (count + 0) i k) ∨
        ∃ l, isAllowed (l + 1) ∧ ∃ i, Reaches starts i ∧ Chain R (count + (l + 1)) i k := by
  constructor
  · rintro ⟨i, start, extra, allowed, chain⟩
    cases extra with
    | zero => exact .inl ⟨i, start, chain⟩
    | succ l => exact .inr ⟨l, allowed, i, start, chain⟩
  · rintro (⟨i, start, chain⟩ | ⟨l, allowed, i, start, chain⟩)
    · exact ⟨i, start, 0, zero, chain⟩
    · exact ⟨i, start, l + 1, allowed, chain⟩

theorem computes_repeated {a : Regex}
    (inner : Computes (text.length + 1) (ends text a) (Spans text a)) (greedy : Bool) (min : Nat)
    (max : Option Nat) : Computes (text.length + 1) (ends text (repeated greedy min max a))
      (Spans text (repeated greedy min max a)) := by
  have required {starts : Positions} (fits : starts.length = text.length + 1) (count : Nat) :=
    (inner.iterate count).length fits
  cases max with
  | some bound =>
      refine ⟨fun fits => ?_, fun fits k => ?_⟩
      · have further := inner.length_onward (bound - min) (required fits min) (required fits min)
        simp [ends, Positions.union, required fits min, further]
      · have further := inner.length_onward (bound - min) (required fits min) (required fits min)
        rw [ends, reaches_union_iff ((required fits min).trans further.symm),
          ← distant_zero_iff (R := Spans text a), inner.reaches_onward _ (required fits min)]
        simp only [inner.distant_iterate_iff fits, Spans, Option.mem_def, Option.some.injEq,
          forall_eq']
        rw [exists_chain_iff (· ≤ bound - min) (Nat.zero_le _)]
        rfl
  | none =>
      cases min with
      | zero =>
          refine ⟨fun fits => ?_, fun fits k => ?_⟩
          · simp [ends, Positions.union, fits, inner.length_onward _ fits fits]
          · rw [ends, reaches_union_iff (fits.trans (inner.length_onward _ fits fits).symm),
              inner.reaches_onward_unbounded (Nat.le_succ _) fits]
            simp only [Spans, Option.mem_def, reduceCtorEq, false_implies, implies_true]
            rw [exists_chain_iff (fun _ => True) trivial]
            simp [Distant, Chain]
      | succ min =>
          refine ⟨fun fits => inner.length_onward _ (required fits min) (required fits min),
            fun fits k => ?_⟩
          rw [ends, inner.reaches_onward_unbounded (Nat.le_succ _) (required fits min)]
          simp only [inner.distant_iterate_iff fits, Spans, Option.mem_def, reduceCtorEq,
            false_implies, implies_true, true_and]
          constructor
          · rintro ⟨l, i, start, chain⟩
            exact ⟨i, start, l, Nat.add_right_comm min 1 l ▸ chain⟩
          · rintro ⟨i, start, l, chain⟩
            exact ⟨l, i, start, Nat.add_right_comm min 1 l ▸ chain⟩

theorem computes_ends (text : List Char) (r : Regex) :
    Computes (text.length + 1) (ends text r) (Spans text r) := by
  induction r with
  | empty => exact ⟨fun fits => fits, fun _ => by simp [ends, Spans]⟩
  | one set =>
      refine ⟨fun fits => ?_, fun fits k => ?_⟩
      · simp [ends, Positions.advance, fits]
      · rw [ends, reaches_advance_iff]
        simp only [Spans]
        constructor
        · rintro ⟨j, rfl, start, c, read, held⟩
          exact ⟨j, start, rfl, c, read, held⟩
        · rintro ⟨j, start, rfl, c, read, held⟩
          exact ⟨j, rfl, start, c, read, held⟩
  | look condition =>
      have length := length_satisfying condition none text
      refine ⟨fun fits => ?_, fun fits k => ?_⟩
      · simp [ends, Positions.inter, fits, length]
      · rw [ends, reaches_inter_iff (fits.trans length.symm), reaches_satisfying_iff]
        simp only [Spans]
        constructor
        · rintro ⟨start, -, held⟩
          exact ⟨k, start, rfl, held⟩
        · rintro ⟨_, start, rfl, held⟩
          have within := start.lt
          exact ⟨start, by omega, held⟩
  | cat a b first second =>
      refine ⟨fun fits => second.length (first.length fits), fun fits k => ?_⟩
      rw [ends, second.reaches (first.length fits)]
      simp only [first.reaches fits, Spans]
      constructor
      · rintro ⟨j, ⟨i, start, front⟩, rest⟩
        exact ⟨i, start, j, front, rest⟩
      · rintro ⟨i, start, j, front, rest⟩
        exact ⟨j, ⟨i, start, front⟩, rest⟩
  | alt a b first second =>
      refine ⟨fun fits => ?_, fun fits k => ?_⟩
      · simp [ends, Positions.union, first.length fits, second.length fits]
      · rw [ends, reaches_union_iff ((first.length fits).trans (second.length fits).symm),
          first.reaches fits, second.reaches fits, ← exists_or]
        simp only [Spans, and_or_left]
  | repeated greedy min max a inner => exact computes_repeated inner greedy min max
  | group captures a inner => exact ⟨inner.length, inner.reaches⟩

/-- The matcher reaches the ends of what the expression reads from the beginnings. -/
theorem reaches_ends_iff {r : Regex} (fits : starts.length = text.length + 1) :
    Reaches (ends text r starts) k ↔ ∃ i, Reaches starts i ∧ Spans text r i k :=
  (computes_ends text r).reaches fits

/-- A text matches when the expression reads a part of it. -/
theorem isMatch_iff {r : Regex} {s : String} :
    r.isMatch s = true ↔ ∃ i ≤ s.toList.length, ∃ k, Spans s.toList r i k := by
  have fits : (Positions.every s.toList).length = s.toList.length + 1 := by
    simp [Positions.every]
  rw [isMatch, any_id_iff]
  simp only [reaches_ends_iff fits, reaches_every_iff]
  constructor
  · rintro ⟨k, i, within, spans⟩
    exact ⟨i, within, k, spans⟩
  · rintro ⟨i, within, k, spans⟩
    exact ⟨k, i, within, spans⟩

end Matching

end Regex

end RoutingPolicy

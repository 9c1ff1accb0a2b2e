import RoutingPolicy.Proofs.Number.Shortest

/-!
# Quotients of doubles

Zero divided by anything is a zero or no number. Rounding does not fall below a power of two, so a
whole number divided by the least positive double of its sign exceeds what any whole number of
twelve bits comes to.
-/

set_option autoImplicit false

namespace RoutingPolicy

theorem le_divNearestEven (n d : Nat) : n / d ≤ divNearestEven n d := by
  simp only [divNearestEven]
  split_ifs <;> omega

namespace Magnitude

def least : Magnitude := ⟨1, 0, by decide, zero.scale_le, .inl rfl⟩

/-- A unit is a power of two. The exponent is kept from being computed with. -/
theorem exists_unitsPerOne_eq : ∃ ones, 53 ≤ ones ∧ ones ≤ 1074 ∧ unitsPerOne = 2 ^ ones := by
  have power : ∃ ones, 53 ≤ ones ∧ ones ≤ 1074 ∧ unitsPerOne = Nat.pow 2 ones := by
    refine ⟨1074, by decide, le_refl _, ?_⟩
    decide +kernel
  exact power

theorem ofFields?_eq_some {significand scale : Nat} {m : Magnitude}
    (found : ofFields? significand scale = some m) : m.units = significand * 2 ^ scale := by
  rw [ofFields?] at found
  split at found
  · cases found
    rfl
  · cases found

theorem scaleOf_bounds {units : Nat} (positive : units ≠ 0) :
    2 ^ scaleOf units ≤ units ∧ units < 2 ^ (53 + scaleOf units) := by
  unfold scaleOf
  have low := Nat.log2_self_le positive
  split
  · next small => exact ⟨Nat.one_le_iff_ne_zero.2 positive, small⟩
  · next large =>
      have bits : 53 ≤ units.log2 := (Nat.le_log2 positive).2 (Nat.le_of_not_lt large)
      constructor
      · exact (Nat.pow_le_pow_right (by decide) (Nat.sub_le _ _)).trans low
      · rw [← Nat.log2_lt positive]
        omega

theorem two_pow_le_units {n d k : Nat} {m : Magnitude} (rounded : nearest? n d = some m)
    (reached : 2 ^ k ≤ n / d) : 2 ^ k ≤ m.units := by
  have positive : n / d ≠ 0 := (Nat.lt_of_lt_of_le (Nat.pow_pos (by decide)) reached).ne'
  rw [nearest?, ofRounded?] at rounded
  generalize shift : scaleOf (n / d) = scale at rounded
  have bounds := scaleOf_bounds positive
  rw [shift] at bounds
  split at rounded
  · -- The larger of the two powers of two is reached, and it is a multiple of the divisor.
    rw [ofFields?_eq_some rounded]
    have larger : 2 ^ max k scale ≤ n / d := by
      rcases Nat.le_total k scale with below | above
      · rw [Nat.max_eq_right below]
        exact bounds.1
      · rw [Nat.max_eq_left above]
        exact reached
    have cut : 2 ^ (max k scale - scale) ≤ n / (d * 2 ^ scale) := by
      rw [← Nat.div_div_eq_div_mul, Nat.le_div_iff_mul_le (Nat.pow_pos (by decide)), ← Nat.pow_add,
        Nat.sub_add_cancel (Nat.le_max_right k scale)]
      exact larger
    calc
      2 ^ k ≤ 2 ^ max k scale := Nat.pow_le_pow_right (by decide) (Nat.le_max_left k scale)
      _ = 2 ^ (max k scale - scale) * 2 ^ scale := by
        rw [← Nat.pow_add, Nat.sub_add_cancel (Nat.le_max_right k scale)]
      _ ≤ divNearestEven n (d * 2 ^ scale) * 2 ^ scale :=
        Nat.mul_le_mul_right _ (cut.trans (le_divNearestEven n _))
  · rw [ofFields?_eq_some rounded]
    have below : k < 53 + scale :=
      (Nat.pow_lt_pow_iff_right (by decide)).1 (Nat.lt_of_le_of_lt reached bounds.2)
    calc
      2 ^ k ≤ 2 ^ (52 + (scale + 1)) := Nat.pow_le_pow_right (by decide) (by omega)
      _ = Nat.pow 2 52 * 2 ^ (scale + 1) := Nat.pow_add 2 52 (scale + 1)

end Magnitude

namespace Binary64

open Magnitude

theorem zero_div (b : Binary64) :
    (zero false).div b = nan ∨ ∃ negative, (zero false).div b = zero negative := by
  cases b with
  | nan => exact .inl rfl
  | infinite negative => exact .inr ⟨_, rfl⟩
  | finite negative k =>
      have nothing : Magnitude.zero.units = 0 := rfl
      rw [zero, div]
      split
      · exact .inl rfl
      · next positive =>
          have same : Magnitude.zero.units * unitsPerOne = Magnitude.zero.units * k.units := by
            rw [nothing, Nat.zero_mul, Nat.zero_mul]
          exact .inr ⟨_, nearest_of_units (Nat.pos_of_ne_zero positive) same _⟩

theorem exists_position_ofMagnitude {found : Option Magnitude} {low : Nat}
    (beyond : low ≤ Nat.pow 2 2098) (large : ∀ m, found = some m → low ≤ m.units) :
    ∃ units : Nat, (ofMagnitude false found).position? = some units ∧ low ≤ units := by
  cases found with
  | none => exact ⟨_, rfl, beyond⟩
  | some m => exact ⟨m.units, rfl, large m rfl⟩

theorem exists_position_div_least {i : Int} (nonzero : i ≠ 0) :
    ∃ units : Nat, ((ofInt i).div (finite (decide (i < 0)) least)).position? = some units ∧
      2048 * unitsPerOne ≤ units := by
  have beyond : 2048 * unitsPerOne ≤ Nat.pow 2 2098 := by
    decide +kernel
  have some_units : 2 ^ 11 ≤ unitsPerOne := by
    decide +kernel
  obtain ⟨ones, -, -, power⟩ := exists_unitsPerOne_eq
  rw [ofInt, nearest]
  generalize decide (i < 0) = negative
  cases rounded : nearest? (i.natAbs * unitsPerOne) 1 with
  | none =>
      have quotient : (infinite negative).div (finite negative least) =
          ofMagnitude false none := by
        rw [div, bne_self_eq_false]
        rfl
      rw [ofMagnitude, quotient]
      exact exists_position_ofMagnitude beyond (by simp)
  | some m =>
      have quotient : (finite negative m).div (finite negative least) =
          ofMagnitude false (nearest? (m.units * unitsPerOne) 1) := by
        rw [div, bne_self_eq_false, if_neg (by decide)]
        rfl
      have large : 2 ^ 11 ≤ m.units := by
        apply two_pow_le_units rounded
        rw [Nat.div_one]
        exact some_units.trans (Nat.le_mul_of_pos_left _ (Int.natAbs_pos.2 nonzero))
      rw [ofMagnitude, quotient]
      apply exists_position_ofMagnitude beyond
      intro q rounded'
      have enough : 2 ^ (11 + ones) ≤ m.units * unitsPerOne / 1 := by
        rw [Nat.div_one, Nat.pow_add, power]
        exact Nat.mul_le_mul_right _ large
      calc
        2048 * unitsPerOne = 2 ^ (11 + ones) := by
          rw [Nat.pow_add, power]
        _ ≤ q.units := two_pow_le_units rounded' enough

end Binary64

end RoutingPolicy

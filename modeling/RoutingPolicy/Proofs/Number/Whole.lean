import RoutingPolicy.Proofs.Number.Quotient

/-!
# Whole numbers as doubles

A double has 53 bits, so a whole number with more of them is rounded to a multiple of a power of
two. `nearestWhole` is what it is rounded to: the nearest of the whole numbers that are doubles, and
the number itself exactly if it is one of them.
-/

set_option autoImplicit false

namespace RoutingPolicy

/-- The whole number has 53 bits, and nothing but zeros behind them. -/
def IsWholeDouble (n : Nat) : Prop :=
  ∃ significand zeros, significand < Nat.pow 2 53 ∧ n = significand * Nat.pow 2 zeros

/-- How many bits of a whole number a double has no place for. -/
def surplus (n : Nat) : Nat := n.log2 - 52

def nearestWhole (n : Nat) : Nat :=
  divNearestEven n (Nat.pow 2 (surplus n)) * Nat.pow 2 (surplus n)

/-! ### Multiples -/

theorem divNearestEven_cases (n d : Nat) :
    (divNearestEven n d = n / d ∧ 2 * (n % d) ≤ d) ∨
      (divNearestEven n d = n / d + 1 ∧ d ≤ 2 * (n % d)) := by
  simp only [divNearestEven]
  split_ifs <;> omega

theorem divNearestEven_le (n d : Nat) : divNearestEven n d ≤ n / d + 1 := by
  obtain ⟨same, -⟩ | ⟨same, -⟩ := divNearestEven_cases n d <;> omega

theorem natAbs_sub_divNearestEven_le {d : Nat} (positive : 0 < d) (n k : Nat) :
    ((n : Int) - (divNearestEven n d * d : Nat)).natAbs ≤ ((n : Int) - (k * d : Nat)).natAbs := by
  have parts : n / d * d + n % d = n := Nat.div_add_mod' n d
  have rest := Nat.mod_lt n positive
  have sides : k * d ≤ n / d * d ∨ n / d * d + d ≤ k * d := by
    rcases Nat.lt_or_ge (n / d) k with above | below
    · refine .inr ?_
      rw [← Nat.succ_mul]
      exact Nat.mul_le_mul_right d above
    · exact .inl (Nat.mul_le_mul_right d below)
  obtain ⟨down, half⟩ | ⟨up, half⟩ := divNearestEven_cases n d
  · rw [down]
    omega
  · rw [up, Nat.succ_mul]
    omega

/-! ### Bits -/

section

variable {n : Nat}

theorem log2_bounds (positive : n ≠ 0) : 2 ^ n.log2 ≤ n ∧ n < 2 ^ (n.log2 + 1) :=
  (Nat.log2_eq_iff positive).1 rfl

theorem surplus_le_of_lt {k : Nat} (below : n < 2 ^ (53 + k)) : surplus n ≤ k := by
  obtain rfl | positive := Nat.eq_zero_or_pos n
  · exact Nat.zero_le k
  · have bits := (Nat.log2_lt positive.ne').2 below
    rw [surplus]
    omega

theorem div_surplus_lt (n : Nat) : n / 2 ^ surplus n < 2 ^ 53 := by
  obtain rfl | positive := Nat.eq_zero_or_pos n
  · rw [Nat.zero_div]
    decide
  · rw [Nat.div_lt_iff_lt_mul (Nat.pow_pos (by decide)), ← Nat.pow_add]
    refine (log2_bounds positive.ne').2.trans_le (Nat.pow_le_pow_right (by decide) ?_)
    rw [surplus]
    omega

theorem two_pow_le_of_surplus (some : surplus n ≠ 0) : 2 ^ (52 + surplus n) ≤ n := by
  have positive : n ≠ 0 := by
    rintro rfl
    exact some rfl
  have bits : 52 + surplus n = n.log2 := by
    rw [surplus] at some ⊢
    omega
  rw [bits]
  exact (log2_bounds positive).1

theorem divNearestEven_surplus_le (n : Nat) : divNearestEven n (2 ^ surplus n) ≤ 2 ^ 53 :=
  (divNearestEven_le _ _).trans (div_surplus_lt n)

/-- A number of 53 bits has room for them behind as many zeros as it lacks bits. -/
theorem surplus_le_of_eq {significand zeros : Nat} (bounded : significand < 2 ^ 53)
    (split : n = significand * 2 ^ zeros) : surplus n ≤ zeros := by
  apply surplus_le_of_lt
  rw [split, Nat.pow_add]
  exact Nat.mul_lt_mul_of_pos_right bounded (Nat.pow_pos (by decide))

theorem nearestWhole_le {k : Nat} (below : n < 2 ^ (53 + k)) : nearestWhole n ≤ 2 ^ (53 + k) :=
  calc
    nearestWhole n ≤ 2 ^ 53 * 2 ^ surplus n :=
      Nat.mul_le_mul_right _ (divNearestEven_surplus_le n)
    _ ≤ 2 ^ 53 * 2 ^ k :=
      Nat.mul_le_mul_left _ (Nat.pow_le_pow_right (by decide) (surplus_le_of_lt below))
    _ = 2 ^ (53 + k) := (Nat.pow_add ..).symm

theorem nearestWhole_of_dvd (multiple : 2 ^ surplus n ∣ n) : nearestWhole n = n := by
  obtain ⟨k, split⟩ := multiple
  have positive : 0 < 2 ^ surplus n := Nat.pow_pos (by decide)
  have exact : divNearestEven n (2 ^ surplus n) = k :=
    calc
      divNearestEven n (2 ^ surplus n) = divNearestEven (k * 2 ^ surplus n) (2 ^ surplus n) :=
        congrArg (divNearestEven · _) (split.trans (Nat.mul_comm ..))
      _ = k := divNearestEven_mul_self positive k
  calc
    nearestWhole n = k * 2 ^ surplus n := congrArg (· * 2 ^ surplus n) exact
    _ = n := by rw [Nat.mul_comm, ← split]

theorem isWholeDouble_nearestWhole (n : Nat) : IsWholeDouble (nearestWhole n) := by
  obtain below | same := Nat.lt_or_eq_of_le (divNearestEven_surplus_le n)
  · exact ⟨_, _, below, rfl⟩
  · refine ⟨Nat.pow 2 52, surplus n + 1, by decide, ?_⟩
    have whole : nearestWhole n = 2 ^ 53 * 2 ^ surplus n :=
      congrArg (· * Nat.pow 2 (surplus n)) same
    have shifted : Nat.pow 2 52 * Nat.pow 2 (surplus n + 1) = 2 ^ (52 + (surplus n + 1)) :=
      (Nat.pow_add ..).symm
    rw [whole, shifted, ← Nat.pow_add]
    congr 1
    omega

theorem nearestWhole_eq_self_iff : nearestWhole n = n ↔ IsWholeDouble n := by
  constructor
  · intro same
    rw [← same]
    exact isWholeDouble_nearestWhole n
  · rintro ⟨significand, zeros, bounded, split⟩
    apply nearestWhole_of_dvd
    have fits := surplus_le_of_eq bounded split
    exact (Nat.pow_dvd_pow 2 fits).trans (Dvd.intro_left significand split.symm)

theorem natAbs_sub_nearestWhole_le {k : Nat} (double : IsWholeDouble k) :
    ((n : Int) - nearestWhole n).natAbs ≤ ((n : Int) - k).natAbs := by
  have positive : 0 < 2 ^ surplus n := Nat.pow_pos (by decide)
  have nearest (j : Nat) : ((n : Int) - nearestWhole n).natAbs ≤
      ((n : Int) - (j * 2 ^ surplus n : Nat)).natAbs := natAbs_sub_divNearestEven_le positive n j
  obtain ⟨significand, zeros, bounded, split⟩ := double
  rcases Nat.lt_or_ge zeros (surplus n) with less | multiple
  · -- Such a number lies below all numbers with the bits of `n`, the least of which is a multiple.
    have low : k ≤ 2 ^ 52 * 2 ^ surplus n := by
      rw [split, ← Nat.pow_add]
      calc
        significand * 2 ^ zeros ≤ 2 ^ 53 * 2 ^ zeros := Nat.mul_le_mul_right _ bounded.le
        _ = 2 ^ (53 + zeros) := (Nat.pow_add ..).symm
        _ ≤ 2 ^ (52 + surplus n) := Nat.pow_le_pow_right (by decide) (by omega)
    have least : 2 ^ 52 * 2 ^ surplus n ≤ n := by
      rw [← Nat.pow_add]
      exact two_pow_le_of_surplus (by omega)
    have := nearest (2 ^ 52)
    omega
  · have whole : k = significand * 2 ^ (zeros - surplus n) * 2 ^ surplus n := by
      rw [Nat.mul_assoc, ← Nat.pow_add, Nat.sub_add_cancel multiple]
      exact split
    rw [whole]
    exact nearest _

end

/-! ### Rounding -/

namespace Magnitude

theorem exists_ofRounded? {significand scale : Nat} (least : 2 ^ 52 ≤ significand)
    (greatest : significand ≤ 2 ^ 53) (inRange : scale < 2045) :
    ∃ m, ofRounded? significand scale = some m ∧ m.units = significand * 2 ^ scale := by
  rw [ofRounded?]
  split
  · next bounded =>
      rw [ofFields?, dif_pos ⟨bounded, inRange.le, .inr least⟩]
      exact ⟨_, rfl, rfl⟩
  · next longer =>
      have full : significand = 2 ^ 53 := Nat.le_antisymm greatest (Nat.le_of_not_lt longer)
      have bounded : Nat.pow 2 52 < Nat.pow 2 53 := by decide
      rw [ofFields?, dif_pos ⟨bounded, inRange, .inr (le_refl _)⟩]
      refine ⟨_, rfl, ?_⟩
      have units : Nat.pow 2 52 * Nat.pow 2 (scale + 1) = 2 ^ (52 + (scale + 1)) :=
        (Nat.pow_add ..).symm
      rw [full, ← Nat.pow_add, Magnitude.units, units]
      congr 1
      omega

/-- A whole number has the same 53 bits whatever the unit is. Bits that it lacks are zeros, which a
unit has enough of. -/
theorem exists_significand {n ones : Nat} (positive : n ≠ 0) (many : 53 ≤ ones) :
    ∃ significand, divNearestEven (n * 2 ^ ones) (2 ^ (n.log2 + ones - 52)) = significand ∧
      2 ^ 52 ≤ significand ∧ significand ≤ 2 ^ 53 ∧
        significand * 2 ^ (n.log2 + ones - 52) = nearestWhole n * 2 ^ ones := by
  obtain ⟨low, high⟩ := log2_bounds positive
  rcases Nat.lt_or_ge n.log2 52 with short | long
  · have lacking : 52 - n.log2 + (ones - (52 - n.log2)) = ones := by omega
    have scale : n.log2 + ones - 52 = ones - (52 - n.log2) := by omega
    have filled : n * 2 ^ ones = n * 2 ^ (52 - n.log2) * 2 ^ (ones - (52 - n.log2)) := by
      rw [Nat.mul_assoc, ← Nat.pow_add, lacking]
    have multiple : 2 ^ surplus n ∣ n := by
      have none : surplus n = 0 := by
        rw [surplus]
        omega
      rw [none]
      exact Nat.one_dvd n
    refine ⟨n * 2 ^ (52 - n.log2), ?_, ?_, ?_, ?_⟩
    · rw [scale, filled]
      exact divNearestEven_mul_self (Nat.pow_pos (by decide)) _
    · calc
        2 ^ 52 = 2 ^ n.log2 * 2 ^ (52 - n.log2) := by
          rw [← Nat.pow_add, Nat.add_sub_cancel' short.le]
        _ ≤ n * 2 ^ (52 - n.log2) := Nat.mul_le_mul_right _ low
    · calc
        n * 2 ^ (52 - n.log2) ≤ 2 ^ (n.log2 + 1) * 2 ^ (52 - n.log2) :=
          Nat.mul_le_mul_right _ high.le
        _ = 2 ^ 53 := by
          rw [← Nat.pow_add]
          congr 1
          omega
    · rw [scale, ← filled, nearestWhole_of_dvd multiple]
  · have scale : n.log2 + ones - 52 = surplus n + ones := by
      rw [surplus]
      omega
    have bits : 52 + surplus n = n.log2 := by
      rw [surplus]
      omega
    refine ⟨divNearestEven n (2 ^ surplus n), ?_, ?_, divNearestEven_surplus_le n, ?_⟩
    · rw [scale, Nat.pow_add, Nat.mul_comm n, Nat.mul_comm (2 ^ surplus n)]
      exact divNearestEven_mul_left (Nat.pow_pos (by decide)) n _
    · refine le_trans ?_ (le_divNearestEven n _)
      rw [Nat.le_div_iff_mul_le (Nat.pow_pos (by decide)), ← Nat.pow_add, bits]
      exact low
    · rw [scale, Nat.pow_add, ← Nat.mul_assoc]
      rfl

theorem exists_nearest?_whole {n : Nat} (positive : n ≠ 0) (bounded : n < 2 ^ 64) :
    ∃ m, nearest? (n * unitsPerOne) 1 = some m ∧ m.units = nearestWhole n * unitsPerOne := by
  obtain ⟨ones, many, few, power⟩ := exists_unitsPerOne_eq
  rw [power]
  have bits : n.log2 < 64 := (Nat.log2_lt positive).2 bounded
  have counted : (n * 2 ^ ones).log2 = n.log2 + ones := by
    obtain ⟨low, high⟩ := log2_bounds positive
    rw [Nat.log2_eq_iff (Nat.mul_ne_zero positive (Nat.pow_pos (by decide)).ne'), Nat.pow_add,
      Nat.add_right_comm, Nat.pow_add]
    exact ⟨Nat.mul_le_mul_right _ low, Nat.mul_lt_mul_of_pos_right high (Nat.pow_pos (by decide))⟩
  have scale : scaleOf (n * 2 ^ ones) = n.log2 + ones - 52 := by
    have large : ¬ n * 2 ^ ones < Nat.pow 2 53 :=
      Nat.not_lt.2 <| (Nat.pow_le_pow_right (by decide) many).trans
        (Nat.le_mul_of_pos_left _ (Nat.pos_of_ne_zero positive))
    rw [scaleOf, if_neg large, counted]
  obtain ⟨significand, rounded, least, greatest, units⟩ := exists_significand positive many
  have inRange : n.log2 + ones - 52 < 2045 := by omega
  obtain ⟨m, found, whole⟩ := exists_ofRounded? least greatest inRange
  refine ⟨m, ?_, whole.trans units⟩
  rw [nearest?, Nat.div_one, Nat.one_mul, scale]
  exact rounded ▸ found

end Magnitude

namespace Binary64

open Magnitude

/-- A whole number that is made a double and cut off is the nearest one that is a double. -/
theorem truncate?_nearest_whole (negative : Bool) {n : Nat} (bounded : n < 2 ^ 64) :
    (nearest negative n 1).truncate? =
      some (if negative then -(nearestWhole n : Int) else nearestWhole n) := by
  have ones : 0 < unitsPerOne := by
    obtain ⟨ones, -, -, power⟩ := exists_unitsPerOne_eq
    rw [power]
    exact Nat.pow_pos (by decide)
  obtain ⟨m, found, units⟩ :
      ∃ m, nearest? (n * unitsPerOne) 1 = some m ∧ m.units = nearestWhole n * unitsPerOne := by
    obtain rfl | positive := Nat.eq_zero_or_pos n
    · refine ⟨Magnitude.zero, ?_, ?_⟩
      · rw [Nat.zero_mul]
        exact nearest?_units_mul Magnitude.zero Nat.one_pos
      · have none : nearestWhole 0 = 0 := nearestWhole_of_dvd (Nat.dvd_zero _)
        rw [none, Nat.zero_mul]
        rfl
    · exact exists_nearest?_whole positive.ne' bounded
  have whole : m.units / unitsPerOne = nearestWhole n := by
    rw [units, Nat.mul_div_cancel _ ones]
  rw [nearest, found, ofMagnitude, truncate?]
  simp only [← Int.natCast_ediv, whole]

end Binary64

end RoutingPolicy

import Mathlib.Data.List.TakeWhile
import Mathlib.Tactic.Ring
import RoutingPolicy.Number.Decimal

/-!
# What is written reads back

A double is written in the fewest digits that read back, without exponent. The notation leaves the
decimal alone, except that a whole number gets zeros behind its digits, and zeros there do not
change the number that is read. So what is read is the double that was written, with its sign.
-/

set_option autoImplicit false

namespace RoutingPolicy

/-! ### Rounding -/

theorem divNearestEven_mul_left {k : Nat} (positive : 0 < k) (n d : Nat) :
    divNearestEven (k * n) (k * d) = divNearestEven n d := by
  have quotient : k * n / (k * d) = n / d := Nat.mul_div_mul_left n d positive
  have rest : k * n % (k * d) = k * (n % d) := Nat.mul_mod_mul_left k n d
  have below : 2 * (k * (n % d)) < k * d ↔ 2 * (n % d) < d := by
    rw [Nat.mul_left_comm]
    exact Nat.mul_lt_mul_left positive
  have above : k * d < 2 * (k * (n % d)) ↔ d < 2 * (n % d) := by
    rw [Nat.mul_left_comm]
    exact Nat.mul_lt_mul_left positive
  simp only [divNearestEven, quotient, rest, below, above]

theorem divNearestEven_mul_self {d : Nat} (positive : 0 < d) (n : Nat) :
    divNearestEven (n * d) d = n := by
  simp [divNearestEven, Nat.mul_div_cancel n positive, positive]

namespace Magnitude

theorem eq_zero_of_units_eq_zero {m : Magnitude} (none : m.units = 0) : m = zero := by
  obtain ⟨significand, scale, bounded, low, normal⟩ := m
  have positive : 0 < Nat.pow 2 scale := Nat.pow_pos (by decide)
  have vanishes : significand = 0 := (Nat.mul_eq_zero.1 none).resolve_right positive.ne'
  obtain rfl | large := normal
  · simp only [zero, vanishes]
  · exact absurd large (by rw [vanishes]; decide)

theorem units_lt (m : Magnitude) (bits : Nat) (fits : 53 + m.scale ≤ bits) :
    m.units < Nat.pow 2 bits := by
  calc m.units = m.significand * 2 ^ m.scale := rfl
    _ < 2 ^ 53 * 2 ^ m.scale :=
      Nat.mul_lt_mul_of_pos_right m.significand_lt (Nat.pow_pos (by decide))
    _ = 2 ^ (53 + m.scale) := (Nat.pow_add ..).symm
    _ ≤ 2 ^ bits := Nat.pow_le_pow_right (by decide) fits

theorem scaleOf_units (m : Magnitude) : scaleOf m.units = m.scale := by
  unfold scaleOf
  have bounded : m.significand < 2 ^ 53 := m.significand_lt
  have split : m.units = m.significand * 2 ^ m.scale := rfl
  obtain unscaled | large := m.normal
  · have small : m.units < Nat.pow 2 53 := by
      rw [split, unscaled, Nat.pow_zero, Nat.mul_one]
      exact bounded
    rw [if_pos small, unscaled]
  · have least : 2 ^ (52 + m.scale) ≤ m.units := by
      rw [split, Nat.pow_add]
      exact Nat.mul_le_mul_right _ large
    have beyond : m.units < 2 ^ (52 + m.scale + 1) := m.units_lt _ (by omega)
    have bits : m.units.log2 = 52 + m.scale :=
      (Nat.log2_eq_iff (by omega)).2 ⟨least, beyond⟩
    by_cases small : m.units < Nat.pow 2 53
    · have low : 2 ^ (52 + m.scale) < 2 ^ 53 := Nat.lt_of_le_of_lt least small
      have := (Nat.pow_lt_pow_iff_right (by decide)).1 low
      rw [if_pos small]
      omega
    · rw [if_neg small, bits]
      omega

theorem nearest?_units_mul (m : Magnitude) {d : Nat} (positive : 0 < d) :
    nearest? (m.units * d) d = some m := by
  have divisor : 0 < d * Nat.pow 2 m.scale := Nat.mul_pos positive (Nat.pow_pos (by decide))
  have shifted : m.units * d = m.significand * (d * Nat.pow 2 m.scale) := by
    rw [units, Nat.mul_assoc, Nat.mul_comm d]
  rw [nearest?, Nat.mul_div_cancel _ positive, scaleOf_units, shifted,
    divNearestEven_mul_self divisor, ofRounded?, if_pos m.significand_lt, ofFields?,
    dif_pos ⟨m.significand_lt, m.scale_le, m.normal⟩]

theorem nearest?_mul_left {k : Nat} (positive : 0 < k) (n d : Nat) :
    nearest? (k * n) (k * d) = nearest? n d := by
  simp only [nearest?, Nat.mul_assoc, divNearestEven_mul_left positive,
    Nat.mul_div_mul_left n d positive]

end Magnitude

namespace Binary64

open Magnitude

theorem nearest_of_units {m : Magnitude} {num den : Nat} (positive : 0 < den)
    (same : num * unitsPerOne = m.units * den) (negative : Bool) :
    nearest negative num den = finite negative m := by
  rw [nearest, same, nearest?_units_mul m positive, ofMagnitude]

theorem nearest_mul_left {k : Nat} (positive : 0 < k) (negative : Bool) (num den : Nat) :
    nearest negative (k * num) (k * den) = nearest negative num den := by
  rw [nearest, Nat.mul_assoc, nearest?_mul_left positive, nearest]

theorem ofMagnitude_eq_finite_iff {negative : Bool} {found : Option Magnitude} {m : Magnitude} :
    ofMagnitude negative found = finite negative m ↔ found = some m := by
  cases found with
  | none => simp [ofMagnitude]
  | some k => simp [ofMagnitude]

theorem nearest_sign {num den : Nat} {m : Magnitude} {negative : Bool}
    (rounded : nearest negative num den = finite negative m) (sign : Bool) :
    nearest sign num den = finite sign m :=
  ofMagnitude_eq_finite_iff.2 (ofMagnitude_eq_finite_iff.1 rounded)

end Binary64

/-! ### Zeros behind the digits -/

namespace Decimal

open Magnitude Binary64

theorem toBinary64_sign {d : Decimal} {m : Magnitude} {negative : Bool}
    (reads : d.toBinary64 negative = finite negative m) (sign : Bool) :
    d.toBinary64 sign = finite sign m := by
  have zeros (same : Binary64.zero negative = finite negative m) :
      Binary64.zero sign = finite sign m :=
    congrArg (finite sign) (finite.inj same).2
  unfold toBinary64 at reads ⊢
  split_ifs at reads ⊢
  · exact zeros reads
  · exact zeros reads
  · exact nearest_sign reads sign
  · exact nearest_sign reads sign

theorem toDigits_mul_ten {n : Nat} (positive : 0 < n) :
    Nat.toDigits 10 (10 * n) = Nat.toDigits 10 n ++ ['0'] :=
  (Nat.toDigits_append_toDigits (b := 10) (d := 0) (by decide) positive (by decide)).symm

theorem nearest_append_zero (negative : Bool) (digits : Nat) (exponent : Int) :
    (if 0 ≤ exponent - 1 then nearest negative (10 * digits * Nat.pow 10 (exponent - 1).toNat) 1
      else nearest negative (10 * digits) (Nat.pow 10 (-(exponent - 1)).toNat)) =
    if 0 ≤ exponent then nearest negative (digits * Nat.pow 10 exponent.toNat) 1
      else nearest negative digits (Nat.pow 10 (-exponent).toNat) := by
  have succ (k : Nat) : Nat.pow 10 (k + 1) = 10 * Nat.pow 10 k := Nat.pow_succ'
  obtain positive | rfl | below := lt_trichotomy 0 exponent
  · have power : exponent.toNat = (exponent - 1).toNat + 1 := by omega
    rw [if_pos (by omega), if_pos (by omega), power, succ]
    congr 1
    ring
  · have power : (-((0 : Int) - 1)).toNat = 0 + 1 := rfl
    have one : Nat.pow 10 0 = 1 := rfl
    rw [if_neg (by decide), if_pos (le_refl 0), power, succ, nearest_mul_left (by decide),
      Int.toNat_zero, one, Nat.mul_one]
  · have power : (-(exponent - 1)).toNat = (-exponent).toNat + 1 := by omega
    rw [if_neg (by omega), if_neg (by omega), power, succ, nearest_mul_left (by decide)]

theorem toBinary64_append_zero (negative : Bool) (digits : Nat) (exponent : Int) :
    toBinary64 negative ⟨10 * digits, exponent - 1⟩ =
      toBinary64 negative ⟨digits, exponent⟩ := by
  obtain rfl | positive := Nat.eq_zero_or_pos digits
  · rfl
  have leading :
      leadingExponent ⟨10 * digits, exponent - 1⟩ = leadingExponent ⟨digits, exponent⟩ := by
    simp only [leadingExponent, digitChars, toDigits_mul_ten positive, List.length_append,
      List.length_singleton]
    omega
  have digits_ne : digits ≠ 0 := positive.ne'
  have longer_ne : 10 * digits ≠ 0 := by omega
  simp only [toBinary64, leading]
  rw [if_neg digits_ne, if_neg longer_ne, nearest_append_zero]

theorem toBinary64_append_zeros (negative : Bool) (digits : Nat) (exponent : Int) (count : Nat) :
    toBinary64 negative ⟨10 ^ count * digits, exponent - count⟩ =
      toBinary64 negative ⟨digits, exponent⟩ := by
  induction count with
  | zero => simp
  | succ count induction =>
    have longer : 10 ^ (count + 1) * digits = 10 * (10 ^ count * digits) := by ring
    have lower : exponent - (count + 1 : Nat) = exponent - count - 1 := by omega
    rw [longer, lower, toBinary64_append_zero, induction]

theorem toBinary64_stripZeros (negative : Bool) (fuel : Nat) (d : Decimal) :
    (stripZeros fuel d).toBinary64 negative = d.toBinary64 negative := by
  induction fuel generalizing d with
  | zero => rfl
  | succ fuel induction =>
    unfold stripZeros
    split
    · next ends =>
      have digits : d.digits = 10 * (d.digits / 10) := by omega
      have split : d = ⟨10 * (d.digits / 10), d.exponent + 1 - 1⟩ := by
        rw [← digits, Int.add_sub_cancel]
      rw [induction]
      conv_rhs => rw [split, toBinary64_append_zero]
    · rfl

/-! ### The decimal that is written -/

theorem toBinary64_of_exponent_neg {d : Decimal} (digits : d.digits ≠ 0)
    (fraction : d.exponent < 0) (least : -330 ≤ d.leadingExponent)
    (greatest : d.leadingExponent ≤ 310) (negative : Bool) :
    d.toBinary64 negative = nearest negative d.digits (Nat.pow 10 (-d.exponent).toNat) := by
  rw [toBinary64, if_neg digits, if_neg (by omega), if_neg (by omega), if_neg (by omega)]

theorem lt_length_toDigits {n count : Nat} (positive : 0 < count) (least : 10 ^ count ≤ n) :
    count < (Nat.toDigits 10 n).length := by
  rw [← Nat.not_le, Nat.length_toDigits_le_iff (by decide) positive]
  exact Nat.not_lt.2 least

theorem length_toDigits_le {n count : Nat} (positive : 0 < count) (below : n < 10 ^ count) :
    (Nat.toDigits 10 n).length ≤ count :=
  (Nat.length_toDigits_le_iff (by decide) positive).2 below

/-- What a unit counts in the last places of `exact`. The powers are compared here once, so that
nothing else opens them. -/
theorem exists_digits_exact :
    ∃ place beyond ones, 10 ^ 744 ≤ place ∧ beyond * place < 10 ^ 1385 ∧ 0 < ones ∧
      place * unitsPerOne = ones ∧ ∀ m, m.units < beyond ∧ (exact m).digits = m.units * place ∧
        Nat.pow 10 (-(exact m).exponent).toNat = ones := by
  have fits (m : Magnitude) : 53 + m.scale ≤ 2098 := Nat.add_le_add_left m.scale_le 53
  have bounded (m : Magnitude) := m.units_lt 2098 (fits m)
  have exponent (m : Magnitude) : (-(exact m).exponent).toNat = 1074 := rfl
  exact ⟨Nat.pow 5 1074, _, _, by decide +kernel, by decide +kernel, by decide +kernel,
    by decide +kernel, fun m => ⟨bounded m, rfl, congrArg (Nat.pow 10) (exponent m)⟩⟩

/-- No magnitude is so great or so small that reading would settle it by its first digit. -/
theorem leadingExponent_exact {m : Magnitude} (positive : 0 < m.units) :
    -330 ≤ (exact m).leadingExponent ∧ (exact m).leadingExponent ≤ 310 := by
  obtain ⟨place, beyond, ones, low, high, -, -, exact_eq⟩ := exists_digits_exact
  obtain ⟨bounded, digits, -⟩ := exact_eq m
  have many : 744 < (exact m).digitChars.length :=
    lt_length_toDigits (by decide)
      (digits ▸ low.trans (Nat.le_mul_of_pos_left place positive))
  have few : (exact m).digitChars.length ≤ 1385 :=
    length_toDigits_le (by decide)
      (digits ▸ (Nat.mul_le_mul_right place bounded.le).trans_lt high)
  have exponent : (exact m).exponent = -1074 := rfl
  rw [leadingExponent, exponent]
  omega

theorem toBinary64_exact (negative : Bool) (m : Magnitude) :
    (exact m).toBinary64 negative = finite negative m := by
  obtain ⟨place, beyond, ones, low, -, positive, whole, exact_eq⟩ := exists_digits_exact
  obtain ⟨-, digits, power⟩ := exact_eq m
  obtain zeros | counts := Nat.eq_zero_or_pos m.units
  · have none : (exact m).digits = 0 := by rw [digits, zeros, Nat.zero_mul]
    rw [toBinary64, if_pos none, eq_zero_of_units_eq_zero zeros, Binary64.zero]
  · have some : (exact m).digits ≠ 0 := by
      rw [digits]
      exact Nat.mul_ne_zero counts.ne' ((Nat.pow_pos (by decide)).trans_le low).ne'
    have same : (exact m).digits * unitsPerOne = m.units * ones := by
      rw [digits, Nat.mul_assoc, whole]
    obtain ⟨least, greatest⟩ := leadingExponent_exact counts
    rw [toBinary64_of_exponent_neg some (Int.negSucc_lt_zero _) least greatest, power]
    exact nearest_of_units positive same negative

theorem toBinary64_of_withDigits? {tie : Tie} {m : Magnitude} {count : Nat} {d : Decimal}
    (found : withDigits? tie m count = some d) : d.toBinary64 false = finite false m := by
  simpa using List.find?_some found

theorem toBinary64_shortest (negative : Bool) (tie : Tie) (m : Magnitude) :
    (shortest tie m).toBinary64 negative = finite negative m := by
  have unsigned : (shortest tie m).toBinary64 false = finite false m := by
    rw [shortest, toBinary64_stripZeros]
    cases found : (List.range 17).findSome? fun i => withDigits? tie m (i + 1) with
    | none => exact toBinary64_exact false m
    | some d =>
      obtain ⟨count, -, fewest⟩ := List.exists_of_findSome?_eq_some found
      exact toBinary64_of_withDigits? fewest
  exact toBinary64_sign unsigned negative

/-! ### Digits around a point -/

/-- The digits before and behind the point are those of `d` with `zeros` behind them. -/
structure Around (d : Decimal) (whole fraction : List Char) (zeros : Nat) : Prop where
  whole_ne_nil : whole ≠ []
  isDigit : ∀ c ∈ whole ++ fraction, c.isDigit = true
  value : Nat.ofDigitChars 10 (whole ++ fraction) 0 = 10 ^ zeros * d.digits
  places : (fraction.length : Int) = zeros - d.exponent

theorem isDigit_of_mem_digitChars {d : Decimal} {c : Char} (listed : c ∈ d.digitChars) :
    c.isDigit = true :=
  Nat.isDigit_of_mem_toDigits (by decide) (by decide) listed

theorem ofDigitChars_digitChars (d : Decimal) : Nat.ofDigitChars 10 d.digitChars 0 = d.digits :=
  Nat.ofDigitChars_ten_toDigits

theorem around_below {d : Decimal} (below : d.exponent + d.digitChars.length ≤ 0) :
    Around d ['0'] (List.replicate (-(d.exponent + d.digitChars.length)).toNat '0' ++ d.digitChars)
      0 where
  whole_ne_nil := by simp
  isDigit c listed := by
    simp only [List.mem_append, List.mem_singleton, List.mem_replicate] at listed
    obtain rfl | ⟨-, rfl⟩ | listed := listed
    · rfl
    · rfl
    · exact isDigit_of_mem_digitChars listed
  value := by
    simp [Nat.ofDigitChars_append, Nat.ofDigitChars_cons, Nat.ofDigitChars_replicate_zero,
      ofDigitChars_digitChars]
  places := by
    simp only [List.length_append, List.length_replicate]
    omega

theorem around_whole {d : Decimal} (whole : 0 ≤ d.exponent) :
    Around d (d.digitChars ++ List.replicate d.exponent.toNat '0') ['0']
      (d.exponent.toNat + 1) where
  whole_ne_nil := List.append_ne_nil_of_left_ne_nil Nat.toDigits_ne_nil _
  isDigit c listed := by
    simp only [List.mem_append, List.mem_singleton, List.mem_replicate] at listed
    obtain (listed | ⟨-, rfl⟩) | rfl := listed
    · exact isDigit_of_mem_digitChars listed
    · rfl
    · rfl
  value := by
    simp only [List.append_assoc, Nat.ofDigitChars_append, ofDigitChars_digitChars,
      Nat.ofDigitChars_replicate_zero, Nat.ofDigitChars_cons, Nat.ofDigitChars_nil,
      Nat.sub_self, Nat.add_zero]
    ring
  places := by
    simp only [List.length_singleton]
    omega

theorem around_within {d : Decimal} {point : Nat} (positive : 0 < point)
    (within : point < d.digitChars.length)
    (same : (point : Int) = d.exponent + d.digitChars.length) :
    Around d (d.digitChars.take point) (d.digitChars.drop point) 0 where
  whole_ne_nil := by
    rw [ne_eq, List.take_eq_nil_iff, not_or]
    exact ⟨positive.ne', Nat.toDigits_ne_nil⟩
  isDigit c listed := by
    rw [List.take_append_drop] at listed
    exact isDigit_of_mem_digitChars listed
  value := by rw [List.take_append_drop, ofDigitChars_digitChars, Nat.pow_zero, Nat.one_mul]
  places := by
    rw [List.length_drop]
    omega

theorem exists_around (d : Decimal) : ∃ whole fraction zeros,
    d.positional.toList = whole ++ '.' :: fraction ∧ Around d whole fraction zeros := by
  have leading : d.leadingExponent + 1 = d.exponent + d.digitChars.length := by
    rw [leadingExponent]
    omega
  rw [positional, leading, String.toList_ofList]
  split_ifs with below fits
  · exact ⟨_, _, _, rfl, around_below below⟩
  · have zeros : (d.exponent + d.digitChars.length).toNat - d.digitChars.length =
        d.exponent.toNat := by omega
    exact ⟨_, _, _, by rw [zeros, List.append_assoc], around_whole (by omega)⟩
  · exact ⟨_, _, _, rfl, around_within (by omega) (by omega) (by omega)⟩

/-! ### Reading -/

theorem not_isExponentMark_of_isDigit {c : Char} (digit : c.isDigit = true) :
    isExponentMark c = false := by
  rw [isExponentMark, Bool.or_eq_false_iff, beq_eq_false_iff_ne, beq_eq_false_iff_ne]
  constructor
  · rintro rfl
    exact absurd digit (by decide)
  · rintro rfl
    exact absurd digit (by decide)

theorem ne_point_of_isDigit {c : Char} (digit : c.isDigit = true) : c ≠ '.' := by
  rintro rfl
  exact absurd digit (by decide)

theorem readDigits?_of_isDigit {cs : List Char} (some : cs ≠ [])
    (digits : ∀ c ∈ cs, c.isDigit = true) :
    Integer.readDigits? cs = Option.some (Nat.ofDigitChars 10 cs 0) := by
  have all : cs.all Char.isDigit = true := List.all_eq_true.2 digits
  have isEmpty : cs.isEmpty = false := by rwa [List.isEmpty_eq_false_iff]
  rw [Integer.readDigits?, isEmpty, all]
  rfl

theorem read?_of_around {d : Decimal} {whole fraction : List Char} {zeros : Nat}
    (around : Around d whole fraction zeros) :
    read? (whole ++ '.' :: fraction) = some ⟨10 ^ zeros * d.digits, d.exponent - zeros⟩ := by
  have digits : ∀ c ∈ whole ++ fraction, c.isDigit = true := around.isDigit
  have unmarked : ∀ c ∈ whole ++ '.' :: fraction, (!isExponentMark c) = true := by
    intro c listed
    simp only [List.mem_append, List.mem_cons] at listed digits
    obtain listed | rfl | listed := listed
    · rw [not_isExponentMark_of_isDigit (digits c (.inl listed))]; rfl
    · rfl
    · rw [not_isExponentMark_of_isDigit (digits c (.inr listed))]; rfl
  have pointless : ∀ c ∈ whole, (c != '.') = true := fun c listed =>
    bne_iff_ne.2 (ne_point_of_isDigit (digits c (List.mem_append_left _ listed)))
  have decimals : fraction.all Char.isDigit = true :=
    List.all_eq_true.2 fun c listed => digits c (List.mem_append_right _ listed)
  have mantissa := List.takeWhile_eq_self_iff.2 unmarked
  have exponent := List.dropWhile_eq_nil_iff.2 unmarked
  have some : whole ++ fraction ≠ [] := List.append_ne_nil_of_left_ne_nil around.whole_ne_nil _
  simp only [read?, mantissa, exponent, List.takeWhile_append_of_pos pointless,
    List.dropWhile_append_of_pos pointless]
  have places : (0 : Int) - fraction.length = d.exponent - zeros := by
    rw [around.places]
    omega
  simp [decimals, readDigits?_of_isDigit some digits, around.value, places]

theorem read?_positional (d : Decimal) :
    ∃ k : Decimal, read? d.positional.toList = some k ∧
      ∀ negative, k.toBinary64 negative = d.toBinary64 negative := by
  obtain ⟨whole, fraction, zeros, written, around⟩ := exists_around d
  exact ⟨_, by rw [written, read?_of_around around], fun negative =>
    toBinary64_append_zeros negative d.digits d.exponent zeros⟩

theorem exists_cons_positional (d : Decimal) :
    ∃ c cs, d.positional.toList = c :: cs ∧ c.isDigit = true := by
  obtain ⟨whole, fraction, zeros, written, around⟩ := exists_around d
  obtain ⟨c, cs, whole_eq⟩ := List.exists_cons_of_ne_nil around.whole_ne_nil
  exact ⟨c, cs ++ '.' :: fraction, by rw [written, whole_eq, List.cons_append],
    around.isDigit c (by simp [whole_eq])⟩

theorem point_mem_positional (d : Decimal) : '.' ∈ d.positional.toList := by
  obtain ⟨whole, fraction, zeros, written, -⟩ := exists_around d
  simp [written]

theorem isDigit_of_mem_positional {d : Decimal} {c : Char} (listed : c ∈ d.positional.toList) :
    c.isDigit = true ∨ c = '.' := by
  obtain ⟨whole, fraction, zeros, written, around⟩ := exists_around d
  simp only [written, List.mem_append, List.mem_cons] at listed
  obtain listed | point | listed := listed
  · exact .inl (around.isDigit c (List.mem_append_left _ listed))
  · exact .inr point
  · exact .inl (around.isDigit c (List.mem_append_right _ listed))

end Decimal

end RoutingPolicy

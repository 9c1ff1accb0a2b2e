import RoutingPolicy.Policy.Reader
import RoutingPolicy.Proofs.Number.Whole
import RoutingPolicy.Proofs.Policy.Notation

/-!
# Integers with a zero fraction

An integer is read exactly. With `.0` behind it it is read as a double, so it stands for the nearest
of the whole numbers that are doubles. That is the integer itself if it has 53 bits and zeros behind
them; otherwise the key stands for another integer, or, just below `2 ^ 63`, for none.
-/

set_option autoImplicit false

namespace RoutingPolicy

open Value

/-! ### The greatest integers -/

section

variable {n : Nat}

/-- From half a step below `2 ^ 63` on, numbers are rounded to it. -/
theorem two_pow_63_le_nearestWhole_iff (below : n < 2 ^ 63) :
    2 ^ 63 ≤ nearestWhole n ↔ 2 ^ 63 - 512 ≤ n := by
  rcases Nat.lt_or_ge n (2 ^ 62) with low | high
  · have small : nearestWhole n ≤ 2 ^ 62 := nearestWhole_le (k := 9) low
    omega
  · have bits : n.log2 = 62 := (Nat.log2_eq_iff (by omega)).2 ⟨high, below⟩
    have scale : Nat.pow 2 (surplus n) = 1024 := by
      rw [surplus, bits]
    rw [nearestWhole, scale]
    simp only [divNearestEven]
    split_ifs <;> omega

end

/-! ### Keys -/

/-- A whole number that is a double, and none is nearer to `i`. -/
structure IsNearestDouble (i r : Int) : Prop where
  double : IsWholeDouble r.natAbs
  nearest : ∀ k : Int, IsWholeDouble k.natAbs → (i - r).natAbs ≤ (i - k).natAbs

/-- The nearest of the whole numbers that are doubles. Of two equally near ones it is the one whose
53 bits end in a zero. -/
def nearestInteger (i : Int) : Int :=
  if i < 0 then -(nearestWhole i.natAbs : Int) else nearestWhole i.natAbs

theorem natAbs_nearestInteger (i : Int) : (nearestInteger i).natAbs = nearestWhole i.natAbs := by
  rw [nearestInteger]
  split <;> omega

theorem isNearestDouble_nearestInteger (i : Int) : IsNearestDouble i (nearestInteger i) where
  double := by
    rw [natAbs_nearestInteger]
    exact isWholeDouble_nearestWhole _
  nearest k double := by
    have near := natAbs_sub_nearestWhole_le (n := i.natAbs) double
    rw [nearestInteger]
    split <;> omega

theorem nearestInteger_eq_self_iff {i : Int} :
    nearestInteger i = i ↔ IsWholeDouble i.natAbs := by
  rw [← nearestWhole_eq_self_iff, nearestInteger]
  split <;> omega

theorem ofInt?_nearestInteger_eq_none_iff {i : Int} (least : -(2 ^ 63) ≤ i) (below : i < 2 ^ 63) :
    Integer.ofInt? (nearestInteger i) = none ↔ 2 ^ 63 - 512 ≤ i := by
  have outside : Integer.ofInt? (nearestInteger i) = none ↔
      ¬(-(2 ^ 63) ≤ nearestInteger i ∧ nearestInteger i < 2 ^ 63) := by
    rw [Integer.ofInt?, Int64.toInt_minValue, Int64.toInt_maxValue]
    simp only [ite_eq_right_iff, reduceCtorEq, imp_false]
    omega
  rw [outside, nearestInteger]
  split
  · have small : nearestWhole i.natAbs ≤ 2 ^ 63 := by
      rcases Nat.lt_or_ge i.natAbs (2 ^ 63) with inside | border
      · exact nearestWhole_le (k := 10) inside
      · have last : i.natAbs = 2 ^ 63 := by omega
        have double : IsWholeDouble (2 ^ 63) := ⟨1, 63, by decide, by decide⟩
        rw [last, nearestWhole_eq_self_iff.2 double]
    omega
  · have greatest := two_pow_63_le_nearestWhole_iff (n := i.natAbs) (by omega)
    omega

/-- An integer of 64 bits is rounded as it is: its first digit is far from where rounding stops. -/
theorem Decimal.toBinary64_whole (negative : Bool) {n : Nat} (bounded : n < 2 ^ 64) :
    Decimal.toBinary64 negative ⟨n, 0⟩ = .nearest negative n 1 := by
  obtain rfl | positive := Nat.eq_zero_or_pos n
  · have none : (0 : Nat) * Magnitude.unitsPerOne = Magnitude.zero.units * 1 := Nat.zero_mul _
    rw [Decimal.toBinary64, if_pos rfl, Binary64.nearest_of_units Nat.one_pos none]
    rfl
  · have few : (Nat.toDigits 10 n).length ≤ 20 :=
      Decimal.length_toDigits_le (by decide) (bounded.trans (by decide))
    have leading : Decimal.leadingExponent ⟨n, 0⟩ = (Nat.toDigits 10 n).length - 1 :=
      congrArg (· - 1) (Int.zero_add _)
    have whole : n * Nat.pow 10 0 = n := Nat.mul_one n
    rw [Decimal.toBinary64, if_neg positive.ne', if_neg (by omega), if_neg (by omega),
      if_pos (le_refl 0), Int.toNat_zero, whole]

theorem isNotation_zeroFraction (n : Nat) : IsNotation (Nat.toDigits 10 n ++ ['.', '0']) where
  begins := (begins_toDigits n).append _
  mem c listed := by
    rcases List.mem_append.1 listed with own | behind
    · exact .inl (Nat.isDigit_of_mem_toDigits (by decide) (by decide) own)
    · simp only [List.mem_cons, List.not_mem_nil, or_false] at behind
      rcases behind with rfl | rfl <;> decide
  marked := ⟨'.', by simp, rfl⟩

theorem exists_read?_zeroFraction {n : Nat} (bounded : n < 2 ^ 64) :
    ∃ d, Decimal.read? (Nat.toDigits 10 n ++ ['.', '0']) = some d ∧
      ∀ negative, d.toBinary64 negative = .nearest negative n 1 := by
  have around := Decimal.around_whole (d := ⟨n, 0⟩) (le_refl 0)
  have reads := Decimal.read?_of_around around
  refine ⟨_, ?_, fun negative => (Decimal.toBinary64_append_zeros negative n 0 1).trans ?_⟩
  · simpa [Decimal.digitChars] using reads
  · exact Decimal.toBinary64_whole negative bounded

theorem readThreshold?_zeroFraction (n : Int64) :
    readThreshold? (Integer.text n ++ ".0") = Integer.ofInt? (nearestInteger n.toInt) := by
  have bounded : n.toInt.natAbs < 2 ^ 64 := by
    have := n.le_toInt
    have := n.toInt_lt
    omega
  have spelled : Integer.text n ++ ".0" = String.ofList
      (signChars (n.toInt < 0) ++ (Nat.toDigits 10 n.toInt.natAbs ++ ['.', '0'])) := by
    apply String.toList_injective
    have fraction : ".0".toList = ['.', '0'] := rfl
    rw [String.toList_append, Integer.text, toList_intText, fraction, String.toList_ofList,
      List.append_assoc]
  obtain ⟨d, read, same⟩ := exists_read?_zeroFraction bounded
  rw [spelled, (isNotation_zeroFraction _).readThreshold?_eq, read, Option.bind_some, same,
    Binary64.truncate?_nearest_whole _ bounded, Option.bind_some, nearestInteger]
  simp only [decide_eq_true_eq]

theorem readThreshold?_text (n : Int64) : readThreshold? (Integer.text n) = some n := by
  have plain : ∀ c ∈ (Integer.text n).toList, Text.isBlank c = false := by
    intro c listed
    rw [Integer.text, toList_intText, List.mem_append] at listed
    rcases listed with sign | own
    · rw [signChars] at sign
      split at sign
      · rw [List.mem_singleton.1 sign]
        decide
      · cases sign
    · exact Text.isBlank_eq_false_of_isDigit
        (Nat.isDigit_of_mem_toDigits (by decide) (by decide) own)
  rw [readThreshold?, Text.trim_eq_self plain, Integer.read?_text]

/-- An integer is read as it is, and with a zero fraction as the nearest of the whole numbers that
are doubles. So the two keys stand for the same integer exactly if it is one of these, and the
second for none from `2 ^ 63 - 512` on. -/
theorem readThreshold?_zeroFraction_iff (n : Int64) :
    readThreshold? (Integer.text n) = some n ∧
      IsNearestDouble n.toInt (nearestInteger n.toInt) ∧
      readThreshold? (Integer.text n ++ ".0") = Integer.ofInt? (nearestInteger n.toInt) ∧
      (readThreshold? (Integer.text n ++ ".0") = some n ↔ IsWholeDouble n.toInt.natAbs) ∧
      (readThreshold? (Integer.text n ++ ".0") = none ↔ 2 ^ 63 - 512 ≤ n.toInt) := by
  have least := n.le_toInt
  have greatest := n.toInt_lt
  refine ⟨readThreshold?_text n, isNearestDouble_nearestInteger _,
    readThreshold?_zeroFraction n, ?_, ?_⟩
  · rw [readThreshold?_zeroFraction, Integer.ofInt?_eq_some_iff, eq_comm,
      nearestInteger_eq_self_iff]
  · rw [readThreshold?_zeroFraction, ofInt?_nearestInteger_eq_none_iff least greatest]

/-- One bit more than a double has: the key with the zero fraction names another group. -/
theorem zeroFraction_moves_task :
    readThreshold? (Integer.text 9007199254740993) = some 9007199254740993 ∧
      readThreshold? (Integer.text 9007199254740993 ++ ".0") = some 9007199254740992 ∧
      (Sections.thresholds "memory" (.ofList [("9007199254740993", ["/wf/A"]),
        ("9007199254740993.0", ["/wf/B"])])).toOption.map ThresholdMap.toList =
          some [(9007199254740992, ["/wf/B"]), (9007199254740993, ["/wf/A"])] := by
  decide +kernel

end RoutingPolicy

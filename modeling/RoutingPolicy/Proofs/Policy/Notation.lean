import RoutingPolicy.Json.Number
import RoutingPolicy.Policy.Threshold
import RoutingPolicy.Proofs.Ad.ValueReader
import RoutingPolicy.Proofs.Text.Trimming

/-!
# Thresholds in decimal notation

A key with a point or an exponent is not the text of an integer. It is read as the nearest double,
whose fraction is cut off. The text of a JSON number is such a key unless the number is an integer,
and since that text reads back, the key stands for the number itself without its fraction.
-/

set_option autoImplicit false

namespace RoutingPolicy

open Value

/-! ### Exponents -/

namespace Decimal

theorem read?_append_exponent {mantissa written : List Char} {e : Int}
    (unmarked : ∀ c ∈ mantissa, isExponentMark c = false)
    (exponent : readExponent? written = some e) :
    read? (mantissa ++ 'e' :: written) =
      (read? mantissa).map fun d => ⟨d.digits, d.exponent + e⟩ := by
  have plain : ∀ c ∈ mantissa, (!isExponentMark c) = true := by
    intro c listed
    rw [unmarked c listed]
    rfl
  have front : (mantissa ++ 'e' :: written).takeWhile (fun c => !isExponentMark c) = mantissa := by
    rw [List.takeWhile_append_of_pos plain]
    exact List.append_nil mantissa
  have back : (mantissa ++ 'e' :: written).dropWhile (fun c => !isExponentMark c) =
      'e' :: written := by
    rw [List.dropWhile_append_of_pos plain]
    rfl
  have alone := List.takeWhile_eq_self_iff.2 plain
  have nothing := List.dropWhile_eq_nil_iff.2 plain
  have moved (digits? : Option Nat) (places : Nat) :
      digits?.map (fun digits => (⟨digits, e - places⟩ : Decimal)) =
        (digits?.map fun digits => (⟨digits, 0 - places⟩ : Decimal)).map fun d =>
          ⟨d.digits, d.exponent + e⟩ := by
    cases digits? with
    | none => rfl
    | some digits =>
        simp only [Option.map_some, Option.some.injEq, Decimal.mk.injEq, true_and]
        omega
  simp only [read?, front, back, alone, nothing, exponent]
  cases mantissa.dropWhile (· != '.') with
  | nil => exact moved _ _
  | cons point fraction =>
      cases decimals : fraction.all Char.isDigit with
      | false =>
          simp only [decimals, Bool.false_eq_true, if_false]
          rfl
      | true =>
          simp only [decimals, if_true]
          exact moved _ _

theorem readExponent?_of_sign (e : Int) :
    readExponent? ((if e < 0 then '-' else '+') :: (Integer.natText e.natAbs).toList) = some e := by
  have digits : Integer.readDigits? (Integer.natText e.natAbs).toList = some e.natAbs := by
    rw [Integer.natText, String.toList_ofList, Integer.readDigits?_toDigits]
  split
  · next negative =>
      have value : -(e.natAbs : Int) = e := by omega
      simp only [readExponent?, Integer.splitSign, digits, if_true]
      exact congrArg some value
  · next positive =>
      have value : (e.natAbs : Int) = e := by omega
      simp only [readExponent?, Integer.splitSign, digits, Bool.false_eq_true, if_false]
      exact congrArg some value

theorem read?_digits {cs : List Char} (digits : ∀ c ∈ cs, c.isDigit = true) :
    read? cs = (Integer.readDigits? cs).map fun n => ⟨n, 0⟩ := by
  have plain : ∀ c ∈ cs, (!isExponentMark c) = true := fun c listed => by
    rw [not_isExponentMark_of_isDigit (digits c listed)]
    rfl
  have pointless : ∀ c ∈ cs, (c != '.') = true := fun c listed =>
    bne_iff_ne.2 (ne_point_of_isDigit (digits c listed))
  simp only [read?, List.takeWhile_eq_self_iff.2 plain, List.dropWhile_eq_nil_iff.2 plain,
    List.takeWhile_eq_self_iff.2 pointless, List.dropWhile_eq_nil_iff.2 pointless,
    List.append_nil]
  rfl

theorem exists_mantissa (d : Decimal) :
    ∃ mantissa, d.scientific.toList = mantissa ++ 'e' ::
        (if d.leadingExponent < 0 then '-' else '+') ::
          (Integer.natText d.leadingExponent.natAbs).toList ∧
      (∀ c ∈ mantissa, c.isDigit = true ∨ c = '.') ∧ (∃ c rest, mantissa = c :: rest ∧ c.isDigit) ∧
      read? mantissa = some ⟨d.digits, 1 - d.digitChars.length⟩ := by
  have sign : (if d.leadingExponent < 0 then "e-" else "e+").toList =
      'e' :: [if d.leadingExponent < 0 then '-' else '+'] := by
    split <;> rfl
  have isDigit : ∀ c ∈ d.digitChars, c.isDigit = true := fun c => isDigit_of_mem_digitChars
  have value := ofDigitChars_digitChars d
  cases digits : d.digitChars with
  | nil => exact absurd digits Nat.toDigits_ne_nil
  | cons c rest =>
      rw [digits] at isDigit value
      have digit := isDigit c List.mem_cons_self
      cases rest with
      | nil =>
          refine ⟨[c], ?_, fun x listed => .inl (isDigit x listed), ⟨c, [], rfl, digit⟩, ?_⟩
          · simp only [scientific, digits, String.toList_append, String.toList_ofList, sign,
              List.cons_append, List.nil_append]
          · rw [read?_digits isDigit, readDigits?_of_isDigit (List.cons_ne_nil c []) isDigit, value]
            rfl
      | cons c' rest =>
          refine ⟨c :: '.' :: c' :: rest, ?_, ?_, ⟨c, _, rfl, digit⟩, ?_⟩
          · simp only [scientific, digits, String.toList_append, String.toList_ofList, sign,
              List.append_assoc, List.cons_append, List.nil_append]
          · intro x listed
            rcases List.mem_cons.1 listed with rfl | behind
            · exact .inl digit
            · exact (List.mem_cons.1 behind).elim .inr fun later =>
                .inl (isDigit x (List.mem_cons_of_mem _ later))
          · have around : Around ⟨d.digits, 1 - (c :: c' :: rest).length⟩ [c] (c' :: rest) 0 := {
              whole_ne_nil := List.cons_ne_nil c []
              isDigit := isDigit
              value := by rw [Nat.pow_zero, Nat.one_mul]; exact value
              places := by simp only [List.length_cons]; omega }
            have reads := read?_of_around around
            simpa using reads

theorem read?_scientific (d : Decimal) : read? d.scientific.toList = some d := by
  obtain ⟨mantissa, written, plain, -, reads⟩ := exists_mantissa d
  have unmarked : ∀ c ∈ mantissa, isExponentMark c = false := by
    intro c listed
    rcases plain c listed with digit | rfl
    · exact not_isExponentMark_of_isDigit digit
    · rfl
  have exponent : 1 - (d.digitChars.length : Int) + d.leadingExponent = d.exponent := by
    rw [leadingExponent]
    omega
  rw [written, read?_append_exponent unmarked (readExponent?_of_sign _), reads, Option.map_some,
    exponent]

end Decimal

/-! ### Keys -/

structure IsNotation (cs : List Char) : Prop where
  begins : Begins Char.isDigit cs
  mem : ∀ c ∈ cs, c.isDigit = true ∨ c ∈ ['.', 'e', '+', '-']
  marked : ∃ c ∈ cs, c.isDigit = false

namespace IsNotation

variable {cs : List Char}

theorem isBlank_eq_false (written : IsNotation cs) {c : Char} (listed : c ∈ cs) :
    Text.isBlank c = false := by
  rcases written.mem c listed with digit | mark
  · exact Text.isBlank_eq_false_of_isDigit digit
  · simp only [List.mem_cons, List.not_mem_nil, or_false] at mark
    rcases mark with rfl | rfl | rfl | rfl <;> decide

theorem ofList_map_toLower_ne (written : IsNotation cs) {word : String}
    (letter : word.toList.head?.any Char.isDigit = false) :
    String.ofList (cs.map Char.toLower) ≠ word := by
  obtain ⟨c, rest, rfl, digit⟩ := written.begins
  have small : c.toLower = c := by
    refine dif_neg fun capital => ?_
    have high : 65 ≤ c.toNat := UInt32.le_iff_toNat_le.1 capital.1
    rw [Char.isDigit, Bool.and_eq_true, decide_eq_true_eq, decide_eq_true_eq] at digit
    have low : c.toNat ≤ 57 := UInt32.le_iff_toNat_le.1 digit.2
    omega
  rintro rfl
  rw [String.toList_ofList, List.map_cons, small] at letter
  exact Bool.false_ne_true (letter.symm.trans digit)

theorem trim_eq (written : IsNotation cs) (negative : Bool) :
    Text.trim (String.ofList (signChars negative ++ cs)) =
      String.ofList (signChars negative ++ cs) := by
  apply Text.trim_eq_self
  intro c listed
  rw [String.toList_ofList, List.mem_append] at listed
  rcases listed with sign | own
  · cases negative
    · cases sign
    · cases List.mem_singleton.1 sign
      decide
  · exact written.isBlank_eq_false own

theorem integer_read?_eq_none (written : IsNotation cs) (negative : Bool) :
    Integer.read? (String.ofList (signChars negative ++ cs)) = none := by
  obtain ⟨x, listed, other⟩ := written.marked
  have mixed : Integer.readDigits? cs = none := by
    rw [Integer.readDigits?, if_neg]
    rw [Bool.and_eq_true, List.all_eq_true]
    intro digits
    rw [digits.2 x listed] at other
    cases other
  obtain ⟨c, rest, rfl, digit⟩ := written.begins
  rw [Integer.read?, String.toList_ofList, splitSign_signChars digit]
  simp only [mixed, Option.bind_none]

theorem binary64_read? (written : IsNotation cs) (negative : Bool) :
    Binary64.read? (String.ofList (signChars negative ++ cs)) =
      (Decimal.read? cs).map (·.toBinary64 negative) := by
  have infinite : ¬(String.ofList (cs.map Char.toLower) = "inf" ∨
      String.ofList (cs.map Char.toLower) = "infinity") :=
    not_or.2 ⟨written.ofList_map_toLower_ne rfl, written.ofList_map_toLower_ne rfl⟩
  have nan : String.ofList (cs.map Char.toLower) ≠ "nan" :=
    written.ofList_map_toLower_ne rfl
  obtain ⟨c, rest, rfl, digit⟩ := written.begins
  rw [Binary64.read?, String.toList_ofList, splitSign_signChars digit]
  simp only [if_neg infinite, if_neg nan]

theorem readThreshold?_eq (written : IsNotation cs) (negative : Bool) :
    readThreshold? (String.ofList (signChars negative ++ cs)) =
      (Decimal.read? cs).bind fun d =>
        (d.toBinary64 negative).truncate?.bind Integer.ofInt? := by
  rw [readThreshold?, written.trim_eq, written.integer_read?_eq_none, written.binary64_read?]
  cases Decimal.read? cs <;> rfl

end IsNotation

theorem isNotation_positional (d : Decimal) : IsNotation d.positional.toList where
  begins := Decimal.exists_cons_positional d
  mem c listed := by
    rcases Decimal.isDigit_of_mem_positional listed with digit | rfl
    · exact .inl digit
    · exact .inr (by decide)
  marked := ⟨'.', Decimal.point_mem_positional d, rfl⟩

theorem isNotation_scientific (d : Decimal) : IsNotation d.scientific.toList := by
  obtain ⟨mantissa, written, plain, ⟨c, rest, same, digit⟩, -⟩ := d.exists_mantissa
  rw [written]
  refine ⟨⟨c, _, by rw [same, List.cons_append], digit⟩, ?_, ⟨'e', by simp, rfl⟩⟩
  intro x listed
  simp only [List.mem_append, List.mem_cons] at listed
  rcases listed with front | rfl | sign | behind
  · refine (plain x front).imp_right ?_
    rintro rfl
    decide
  · exact .inr (by decide)
  · refine .inr ?_
    rw [sign]
    split <;> decide
  · rw [Integer.natText, String.toList_ofList] at behind
    exact .inl (Nat.isDigit_of_mem_toDigits (by decide) (by decide) behind)

/-! ### Numbers in JSON -/

namespace JsonNumber

def whole : JsonNumber → Int
  | integer i => i
  | real negative m =>
    let units : Int := m.units / Magnitude.unitsPerOne
    if negative then -units else units

/-- What is written of a magnitude reads back, whatever the sign. -/
theorem exists_read?_magnitudeText (m : Magnitude) :
    IsNotation (magnitudeText m).toList ∧ ∃ k, Decimal.read? (magnitudeText m).toList = some k ∧
      ∀ negative, k.toBinary64 negative = .finite negative m := by
  have shortest (negative : Bool) := Decimal.toBinary64_shortest negative .toEven m
  unfold magnitudeText
  generalize Decimal.shortest .toEven m = d at shortest ⊢
  dsimp only
  split
  · obtain ⟨k, read, same⟩ := Decimal.read?_positional d
    exact ⟨isNotation_positional d, k, read, fun negative => (same negative).trans (shortest _)⟩
  · exact ⟨isNotation_scientific d, d, Decimal.read?_scientific d, shortest⟩

/-- The text of a number that is no integer stands for the number without its fraction. -/
theorem readThreshold?_text_real (negative : Bool) (m : Magnitude) :
    readThreshold? (real negative m).text = Integer.ofInt? (real negative m).whole := by
  obtain ⟨written, k, read, same⟩ := exists_read?_magnitudeText m
  have spelled : (real negative m).text =
      String.ofList (signChars negative ++ (magnitudeText m).toList) := by
    apply String.toList_injective
    cases negative <;> simp [text, signChars]
  rw [spelled, written.readThreshold?_eq, read, Option.bind_some, same, Binary64.truncate?,
    Option.bind_some, whole]

end JsonNumber

end RoutingPolicy

import Mathlib
import RoutingPolicy.Site.Name

/-!
# The parts of a site name

A text can be cut at a byte position exactly when a character ends there. The parts of a site name
are read at positions that are right if the digit of its tier takes one byte. So a name in ASCII is
joined from the three parts that are read off it. In every other name the digit is of another
script: no character ends behind the second byte, so there is no tier, and other characters than the
country and the name stand where these are looked for.
-/

namespace RoutingPolicy

set_option autoImplicit false

/-! ### Cuts at byte positions -/

namespace Text

variable {n start stop : Nat} {s t : String}

theorem splitBytes?_eq_some_iff {cs front back : List Char} :
    splitBytes? n cs = some (front, back) ↔ cs = front ++ back ∧ String.utf8Len front = n := by
  fun_induction splitBytes? n cs generalizing front back with
  | case1 cs =>
      rw [Option.some.injEq, Prod.mk.injEq, String.utf8Len_eq_zero]
      constructor
      · intro same
        rw [← same.1, ← same.2]
        exact ⟨rfl, rfl⟩
      · intro cut
        rw [cut.1, cut.2]
        exact ⟨rfl, rfl⟩
  | case2 n =>
      simp only [reduceCtorEq, false_iff]
      intro cut
      rw [(List.append_eq_nil_iff.1 cut.1.symm).1] at cut
      exact absurd cut.2 (by simp)
  | case3 n c cs fits induction =>
      cases front with
      | nil => simp
      | cons d front =>
          have positive := c.utf8Size_pos
          simp only [Option.map_eq_some_iff, Prod.exists, Prod.mk.injEq, List.cons.injEq,
            List.cons_append, String.utf8Len_cons]
          constructor
          · intro split
            rcases split with ⟨front', back', found, ⟨rfl, rfl⟩, rfl⟩
            rcases induction.1 found with ⟨rfl, size⟩
            exact ⟨⟨rfl, rfl⟩, by omega⟩
          · intro cut
            rcases cut with ⟨⟨rfl, rest⟩, size⟩
            exact ⟨front, back, induction.2 ⟨rest, by omega⟩, ⟨rfl, rfl⟩, rfl⟩
  | case4 n c cs large =>
      simp only [reduceCtorEq, false_iff]
      intro cut
      cases front with
      | nil => exact absurd cut.2 (by simp)
      | cons d front =>
          rcases cut with ⟨same, size⟩
          obtain rfl : c = d := (List.cons.inj same).1
          rw [String.utf8Len_cons] at size
          omega

theorem utf8Len_toList (s : String) : String.utf8Len s.toList = s.utf8ByteSize := by
  rw [← String.utf8ByteSize_ofList, String.ofList_toList]

theorem splitBytes?_toList_eq_some_iff {front back : List Char} :
    splitBytes? n s.toList = some (front, back) ↔
      s = String.ofList front ++ String.ofList back ∧ (String.ofList front).utf8ByteSize = n := by
  rw [splitBytes?_eq_some_iff, ← String.ofList_append, String.utf8ByteSize_ofList,
    ← String.toList_inj, String.toList_ofList]

theorem takeBytes?_eq_some_iff :
    takeBytes? n s = some t ↔ ∃ rest, s = t ++ rest ∧ t.utf8ByteSize = n := by
  simp only [takeBytes?, Option.map_eq_some_iff, Prod.exists, splitBytes?_toList_eq_some_iff]
  constructor
  · intro taken
    rcases taken with ⟨front, back, ⟨whole, size⟩, rfl⟩
    exact ⟨String.ofList back, whole, size⟩
  · intro cut
    rcases cut with ⟨rest, whole, size⟩
    refine ⟨t.toList, rest.toList, ?_, String.ofList_toList⟩
    rw [String.ofList_toList, String.ofList_toList]
    exact ⟨whole, size⟩

theorem dropBytes?_eq_some_iff :
    dropBytes? n s = some t ↔ ∃ front, s = front ++ t ∧ front.utf8ByteSize = n := by
  simp only [dropBytes?, Option.map_eq_some_iff, Prod.exists, splitBytes?_toList_eq_some_iff]
  constructor
  · intro dropped
    rcases dropped with ⟨front, back, ⟨whole, size⟩, rfl⟩
    exact ⟨String.ofList front, whole, size⟩
  · intro cut
    rcases cut with ⟨front, whole, size⟩
    refine ⟨front.toList, t.toList, ?_, String.ofList_toList⟩
    rw [String.ofList_toList, String.ofList_toList]
    exact ⟨whole, size⟩

theorem sliceBytes?_eq_some_iff :
    sliceBytes? start stop s = some t ↔
      ∃ front rest, s = front ++ t ++ rest ∧ front.utf8ByteSize = start ∧
        (front ++ t).utf8ByteSize = stop := by
  simp only [sliceBytes?, Option.bind_eq_some_iff, takeBytes?_eq_some_iff,
    dropBytes?_eq_some_iff]
  constructor
  · intro sliced
    rcases sliced with ⟨_, ⟨rest, rfl, size⟩, front, rfl, size'⟩
    exact ⟨front, rest, rfl, size', size⟩
  · intro cut
    rcases cut with ⟨front, rest, rfl, size, size'⟩
    exact ⟨front ++ t, ⟨rest, rfl, size'⟩, front, rfl, size⟩

def IsAscii (s : String) : Prop := ∀ c ∈ s.toList, c.toNat < 0x80

theorem utf8Size_eq_one_iff {c : Char} : c.utf8Size = 1 ↔ c.toNat < 0x80 := by
  rw [Char.utf8Size_eq_one_iff, UInt32.le_iff_toNat_le]
  exact Nat.lt_succ_iff.symm

end Text

/-! ### Characters in ASCII -/

theorem toNat_lt_of_isNameChar {c : Char} (letter : isNameChar c = true) : c.toNat < 0x80 := by
  simp only [isNameChar, isCapital, Bool.or_eq_true, Bool.and_eq_true, decide_eq_true_eq,
    beq_iff_eq] at letter
  rcases letter with (⟨_, high⟩ | ⟨_, high⟩) | rfl
  · exact Nat.lt_of_le_of_lt (UInt32.le_iff_toNat_le.1 high) (by decide)
  · exact Nat.lt_of_le_of_lt (UInt32.le_iff_toNat_le.1 high) (by decide)
  · decide

theorem utf8Size_of_isCapital {c : Char} (capital : isCapital c = true) : c.utf8Size = 1 :=
  Text.utf8Size_eq_one_iff.2 (toNat_lt_of_isNameChar (isNameChar_of_isCapital capital))

namespace SiteName

/-- The text is joined from a tier, a country and a name, each of the form that it must have. -/
structure Joins (s tier country name : String) : Prop where
  joined : s = tier ++ "_" ++ country ++ "_" ++ name
  tier : ∃ digit, tier.toList = ['T', digit] ∧ Text.isDecimalDigit digit = true
  country : ∃ c c', country.toList = [c, c'] ∧ isCapital c = true ∧ isCapital c' = true
  name : ∃ first rest, name.toList = first :: rest ∧ isCapital first = true ∧ rest ≠ [] ∧
    ∀ c ∈ rest, isNameChar c = true

namespace IsSpelled

variable {site : SiteName} {digit c c' first : Char} {rest : List Char}

/-- Only the digit of the tier can be of another script. -/
theorem isAscii_iff (spelled : site.IsSpelled digit c c' first rest) :
    Text.IsAscii site.text ↔ digit.utf8Size = 1 := by
  rw [Text.utf8Size_eq_one_iff, Text.IsAscii]
  constructor
  · intro ascii
    apply ascii
    simp [spelled.characters]
  · intro small d member
    rcases spelled.eq_digit_or_isNameChar member with rfl | letter
    · exact small
    · exact toNat_lt_of_isNameChar letter

theorem joins (spelled : site.IsSpelled digit c c' first rest) :
    Joins site.text (String.ofList ['T', digit]) (String.ofList [c, c'])
      (String.ofList (first :: rest)) where
  joined := by
    rw [← String.toList_inj, spelled.characters]
    simp
  tier := ⟨digit, String.toList_ofList, spelled.digit⟩
  country := ⟨c, c', String.toList_ofList, spelled.country, spelled.country'⟩
  name := ⟨first, rest, String.toList_ofList, spelled.first, spelled.rest_ne_nil, spelled.rest⟩

/-! ### What is read -/

theorem front_cases (spelled : site.IsSpelled digit c c' first rest) {front back : List Char}
    (whole : site.text.toList = front ++ back) :
    String.utf8Len front ≤ 1 ∨ front = ['T', digit] ∨ front = ['T', digit, '_'] ∨
      digit.utf8Size + 3 ≤ String.utf8Len front := by
  have narrow : ('T' : Char).utf8Size = 1 ∧ ('_' : Char).utf8Size = 1 := ⟨rfl, rfl⟩
  rw [spelled.characters] at whole
  match front with
  | [] => exact .inl (Nat.zero_le _)
  | [d₁] =>
      obtain ⟨rfl, -⟩ : 'T' = d₁ ∧ _ := by simpa using whole
      exact .inl (Nat.le_of_eq narrow.1)
  | [d₁, d₂] =>
      obtain ⟨rfl, rfl, -⟩ : 'T' = d₁ ∧ digit = d₂ ∧ _ := by simpa using whole
      exact .inr (.inl rfl)
  | [d₁, d₂, d₃] =>
      obtain ⟨rfl, rfl, rfl, -⟩ : 'T' = d₁ ∧ digit = d₂ ∧ '_' = d₃ ∧ _ := by simpa using whole
      exact .inr (.inr (.inl rfl))
  | d₁ :: d₂ :: d₃ :: d₄ :: front =>
      obtain ⟨rfl, rfl, rfl, -⟩ : 'T' = d₁ ∧ digit = d₂ ∧ '_' = d₃ ∧ _ := by simpa using whole
      have positive := d₄.utf8Size_pos
      simp only [String.utf8Len_cons]
      omega

theorem utf8Len_tier (digit : Char) : String.utf8Len ['T', digit] = digit.utf8Size + 1 := by
  simp [show ('T' : Char).utf8Size = 1 from rfl]

theorem utf8Len_tier_underscore (digit : Char) :
    String.utf8Len ['T', digit, '_'] = digit.utf8Size + 2 := by
  have narrow : ('T' : Char).utf8Size = 1 ∧ ('_' : Char).utf8Size = 1 := ⟨rfl, rfl⟩
  simp only [String.utf8Len_cons, String.utf8Len_nil]
  omega

theorem utf8Len_country (spelled : site.IsSpelled digit c c' first rest) :
    String.utf8Len [c, c'] = 2 := by
  simp [utf8Size_of_isCapital spelled.country, utf8Size_of_isCapital spelled.country']

theorem tier?_eq_some_iff (spelled : site.IsSpelled digit c c' first rest) :
    site.tier? = some (String.ofList ['T', digit]) ↔ digit.utf8Size = 1 := by
  rw [tier?, Text.takeBytes?_eq_some_iff, String.utf8ByteSize_ofList, utf8Len_tier]
  constructor
  · intro read
    rcases read with ⟨_, _, size⟩
    omega
  · intro narrow
    refine ⟨"_" ++ String.ofList [c, c'] ++ "_" ++ String.ofList (first :: rest), ?_, by omega⟩
    rw [spelled.joins.joined]
    simp only [String.append_assoc]

theorem tier?_eq_none (spelled : site.IsSpelled digit c c' first rest)
    (wide : digit.utf8Size ≠ 1) : site.tier? = none := by
  rw [Option.eq_none_iff_forall_ne_some]
  intro tier read
  rcases Text.takeBytes?_eq_some_iff.1 read with ⟨behind, whole, size⟩
  rw [← String.toList_inj, String.toList_append] at whole
  rw [← Text.utf8Len_toList] at size
  have positive := digit.utf8Size_pos
  rcases spelled.front_cases whole with short | same | same | long
  · omega
  · rw [same, utf8Len_tier] at size
    omega
  · rw [same, utf8Len_tier_underscore] at size
    omega
  · omega

theorem country?_eq_some_iff (spelled : site.IsSpelled digit c c' first rest) :
    SiteName.country? site = some (String.ofList [c, c']) ↔ digit.utf8Size = 1 := by
  unfold SiteName.country?
  rw [Text.sliceBytes?_eq_some_iff]
  constructor
  · intro read
    rcases read with ⟨front, behind, whole, size, -⟩
    rw [← String.toList_inj, String.toList_append, String.toList_append, List.append_assoc] at whole
    rw [← Text.utf8Len_toList] at size
    have positive := digit.utf8Size_pos
    rcases spelled.front_cases whole with short | same | same | long
    · omega
    · -- The first letter would stand where the underscore in front of it does.
      rw [same, spelled.characters] at whole
      obtain ⟨rfl, -⟩ : '_' = c ∧ _ := by simpa using whole
      exact absurd spelled.country (by decide)
    · rw [same, utf8Len_tier_underscore] at size
      omega
    · omega
  · intro narrow
    have front : (String.ofList ['T', digit, '_']).utf8ByteSize = 3 := by
      rw [String.utf8ByteSize_ofList, utf8Len_tier_underscore, narrow]
    refine ⟨String.ofList ['T', digit, '_'], String.ofList ('_' :: first :: rest), ?_, front, ?_⟩
    · rw [← String.toList_inj, spelled.characters]
      simp
    · rw [String.utf8ByteSize_append, front, String.utf8ByteSize_ofList, spelled.utf8Len_country]

theorem name?_eq_some_iff (spelled : site.IsSpelled digit c c' first rest) :
    site.name? = some (String.ofList (first :: rest)) ↔ digit.utf8Size = 1 := by
  have whole : site.text =
      String.ofList (['T', digit, '_'] ++ [c, c'] ++ ['_']) ++ String.ofList (first :: rest) := by
    rw [← String.toList_inj, spelled.characters]
    simp
  have size : (String.ofList (['T', digit, '_'] ++ [c, c'] ++ ['_'])).utf8ByteSize =
      digit.utf8Size + 5 := by
    rw [String.utf8ByteSize_ofList, String.utf8Len_append, String.utf8Len_append,
      utf8Len_tier_underscore, spelled.utf8Len_country]
    rfl
  rw [name?, Text.dropBytes?_eq_some_iff, whole]
  constructor
  · intro read
    rcases read with ⟨front, same, six⟩
    rw [← (String.append_left_inj _).1 same, size] at six
    omega
  · intro narrow
    exact ⟨_, rfl, by rw [size, narrow]⟩

end IsSpelled

/-- A site name is joined from its parts, and each of them is read off it exactly when the name is
in ASCII. Of no other name can the tier be read at all. -/
theorem parts_eq_some_iff_isAscii {s : String} {site : SiteName}
    (accepted : ofString? s = .ok site) :
    ∃ tier country name, Joins s tier country name ∧
      (Text.IsAscii s ↔ site.tier? = some tier) ∧
      (Text.IsAscii s ↔ SiteName.country? site = some country) ∧
      (Text.IsAscii s ↔ site.name? = some name) ∧
      (¬ Text.IsAscii s ↔ site.tier? = none) := by
  obtain rfl := ofString?_eq_ok_iff.1 accepted
  rcases site.exists_isSpelled with ⟨digit, c, c', first, rest, spelled⟩
  refine ⟨_, _, _, spelled.joins, ?_⟩
  rw [spelled.isAscii_iff]
  refine ⟨spelled.tier?_eq_some_iff.symm, spelled.country?_eq_some_iff.symm,
    spelled.name?_eq_some_iff.symm, spelled.tier?_eq_none, ?_⟩
  intro unread narrow
  rw [spelled.tier?_eq_some_iff.2 narrow] at unread
  cases unread

/-- A name in ASCII with an underscore in its last part. -/
theorem parts_eq_some_of_hlt :
    let site : SiteName := ⟨"T2_CH_CERN_HLT", rfl⟩
    ofString? "T2_CH_CERN_HLT" = .ok site ∧
      ∃ tier country name, Joins "T2_CH_CERN_HLT" tier country name ∧
        site.tier? = some tier ∧ SiteName.country? site = some country ∧
        site.name? = some name := by
  intro site
  have accepted : ofString? "T2_CH_CERN_HLT" = .ok site := ofString?_eq_ok_iff.2 rfl
  have ascii : Text.IsAscii "T2_CH_CERN_HLT" := by
    simp [Text.IsAscii]
  rcases parts_eq_some_iff_isAscii accepted with
    ⟨tier, country, name, joins, tierRead, countryRead, nameRead, -⟩
  exact ⟨accepted, tier, country, name, joins, tierRead.1 ascii, countryRead.1 ascii,
    nameRead.1 ascii⟩

/-- A name with an Arabic digit has no tier, and its other parts are cut one character early. -/
theorem parts_of_arabic_digit :
    let site : SiteName := ⟨"T\u0663_US_FNAL", rfl⟩
    ofString? "T\u0663_US_FNAL" = .ok site ∧ site.tier? = none ∧
      SiteName.country? site = some "_U" ∧ site.name? = some "_FNAL" := by
  decide +kernel

end SiteName

end RoutingPolicy

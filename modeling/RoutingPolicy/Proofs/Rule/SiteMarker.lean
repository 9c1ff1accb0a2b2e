import RoutingPolicy.Proofs.Ad.NameReader
import RoutingPolicy.Proofs.Ad.Reading
import RoutingPolicy.Proofs.Site.Parts
import RoutingPolicy.Rule.Marker

/-!
# Markers of sites

The marker of a site is the stem of all such markers and the name of the site. Names of attributes
disregard case, and names of sites do not: two sites have separate markers exactly when their names
differ in more than the case of letters. A marker is written without quotes exactly when the name of
its site is in ASCII, since a digit of another script belongs to no identifier.
-/

set_option autoImplicit false

namespace RoutingPolicy

namespace Marker

def isHeldFrom (name : String) : Bool :=
  (Text.foldCase heldFromStem).toList.isPrefixOf (Text.foldCase name).toList

theorem isHeldFrom_heldFrom (site : SiteName) : isHeldFrom (heldFrom site) = true := by
  rw [isHeldFrom, heldFrom, Text.foldCase_append, String.toList_append, List.isPrefixOf_iff_prefix]
  exact List.prefix_append _ _

theorem isHeldFrom_congr {name name' : String}
    (same : Text.sameIgnoringCase name name' = true) : isHeldFrom name = isHeldFrom name' := by
  rw [isHeldFrom, isHeldFrom, Text.sameIgnoringCase_iff.1 same]

theorem sameIgnoringCase_of_isHeldFrom {name name' : String} (held : isHeldFrom name = true)
    (other : isHeldFrom name' = false) : Text.sameIgnoringCase name name' = false := by
  rw [Bool.eq_false_iff]
  intro same
  rw [isHeldFrom_congr same, other] at held
  cases held

theorem sameIgnoringCase_heldFrom (site site' : SiteName) :
    Text.sameIgnoringCase (heldFrom site) (heldFrom site') =
      Text.sameIgnoringCase site.text site'.text := by
  rw [Bool.eq_iff_iff, Text.sameIgnoringCase_iff, Text.sameIgnoringCase_iff]
  exact Text.foldCase_append_left_inj

end Marker

/-! ### Separate attributes -/

namespace JobAd

/-- What is bound to the first name never shows under the second. -/
def Separate (name name' : String) : Prop :=
  ∀ (ad : JobAd) (e : Expr), (ad.bind name e).get? name' = ad.get? name'

theorem separate_iff {name name' : String} :
    Separate name name' ↔ Text.sameIgnoringCase name name' = false := by
  rw [Text.sameIgnoringCase_eq_false_iff]
  constructor
  · intro separate same
    have unbound := separate empty (.lit .undefined)
    rw [get?_bind, if_pos same.symm] at unbound
    cases unbound
  · intro different ad e
    rw [get?_bind, if_neg (Ne.symm different)]

end JobAd

/-! ### Plain names -/

theorem isWord_append {word : List Char} (whole : isWord word = true) (rest : List Char) :
    isWord (word ++ rest) = rest.all isIdentifierChar := by
  cases word with
  | nil => cases whole
  | cons first others =>
      rw [isWord, Bool.and_eq_true_iff] at whole
      rw [List.cons_append, isWord, List.all_append, whole.1, whole.2]
      rfl

theorem attributeName_eq_self_iff {name : String} :
    attributeName name = name ↔ isPlainName name = true := by
  rw [attributeName]
  split
  · next plain => exact iff_of_true rfl plain
  · next unplain =>
      refine iff_of_false (fun same => ?_) unplain
      have longer : ∀ cs : List Char, cs.length ≤ (cs.flatMap quoteNameChar).length := by
        intro cs
        induction cs with
        | nil => exact Nat.le_refl 0
        | cons c cs induction =>
            have one : 1 ≤ (quoteNameChar c).length := by
              unfold quoteNameChar
              split_ifs <;> simp
            rw [List.flatMap_cons, List.length_append, List.length_cons]
            omega
      have sizes := congrArg (fun text => text.toList.length) same
      simp only [String.toList_ofList, List.length_cons, List.length_append, List.length_nil]
        at sizes
      have bound := longer name.toList
      omega

theorem toNat_lt_of_isIdentifierChar {c : Char} (held : isIdentifierChar c = true) :
    c.toNat < 0x80 := by
  simp only [isIdentifierChar, Char.isAlphanum, Char.isAlpha, Char.isUpper, Char.isLower,
    Char.isDigit, Bool.or_eq_true, Bool.and_eq_true, decide_eq_true_eq, beq_iff_eq, ge_iff_le,
    UInt32.le_iff_toNat_le] at held
  rcases held with ((⟨_, high⟩ | ⟨_, high⟩) | ⟨_, high⟩) | rfl
  · exact Nat.lt_of_le_of_lt high (by decide)
  · exact Nat.lt_of_le_of_lt high (by decide)
  · exact Nat.lt_of_le_of_lt high (by decide)
  · decide

theorem isIdentifierChar_of_isNameChar {c : Char} (letter : isNameChar c = true) :
    isIdentifierChar c = true := by
  simp only [isNameChar, isCapital, Bool.or_eq_true, Bool.and_eq_true, decide_eq_true_eq,
    beq_iff_eq] at letter
  simp only [isIdentifierChar, Char.isAlphanum, Char.isAlpha, Char.isUpper, Char.isLower,
    Bool.or_eq_true, Bool.and_eq_true, decide_eq_true_eq, beq_iff_eq]
  exact letter.imp_left .inl

theorem isDigit_of_isDecimalDigit {c : Char} (digit : Text.isDecimalDigit c = true)
    (small : c.toNat < 0x80) : c.isDigit = true := by
  have others : ∀ range ∈ Text.digitTable, range = (0x30, 0x39) ∨ 0x80 ≤ range.1 := by
    decide +kernel
  simp only [Text.isDecimalDigit, Text.CharTable.contains, Text.CharTable.holds, List.any_eq_true,
    Bool.and_eq_true, decide_eq_true_eq] at digit
  rcases digit with ⟨range, listed, low, high⟩
  rcases others range listed with rfl | foreign
  · exact Char.isDigit_iff_toNat.2 ⟨low, high⟩
  · omega

/-- The characters of a site name belong to identifiers exactly when they are in ASCII. -/
theorem SiteName.all_isIdentifierChar_iff (site : SiteName) :
    site.text.toList.all isIdentifierChar = true ↔ Text.IsAscii site.text := by
  rw [List.all_eq_true]
  constructor
  · intro identifier c member
    exact toNat_lt_of_isIdentifierChar (identifier c member)
  · intro ascii c member
    rcases site.exists_isSpelled with ⟨digit, _, _, _, _, spelled⟩
    rcases spelled.eq_digit_or_isNameChar member with rfl | letter
    · have digit := isDigit_of_isDecimalDigit spelled.digit (ascii c member)
      simp [isIdentifierChar, Char.isAlphanum, digit]
    · exact isIdentifierChar_of_isNameChar letter

namespace Marker

theorem isPlainName_heldFrom_iff (site : SiteName) :
    isPlainName (heldFrom site) = true ↔ Text.IsAscii site.text := by
  have stem : isWord heldFromStem.toList = true := by decide +kernel
  have unreserved : Text.foldCase (heldFrom site) ∉ reservedWords := by
    have others : ∀ word ∈ reservedWords, isHeldFrom word = false := by decide +kernel
    intro reserved
    have same : Text.sameIgnoringCase (Text.foldCase (heldFrom site)) (heldFrom site) = true :=
      Text.sameIgnoringCase_iff.2 (Text.foldCase_foldCase _)
    have held := isHeldFrom_heldFrom site
    rw [← isHeldFrom_congr same, others _ reserved] at held
    cases held
  rw [isPlainName_iff, heldFrom, String.toList_append, isWord_append stem]
  rw [← heldFrom, site.all_isIdentifierChar_iff]
  exact and_iff_left unreserved

/-- The markers of two sites are separate attributes exactly when the names of the sites differ in
more than the case of letters, and a marker is a plain name, written without quotes, exactly when
the name of its site is in ASCII. -/
theorem heldFrom_separate_and_plain_iff {s t : String} {site other : SiteName}
    (accepted : SiteName.ofString? s = .ok site) (accepted' : SiteName.ofString? t = .ok other) :
    (JobAd.Separate (heldFrom site) (heldFrom other) ↔ Text.sameIgnoringCase s t = false) ∧
      (isPlainName (heldFrom site) = true ↔ Text.IsAscii s) ∧
      (attributeName (heldFrom site) = heldFrom site ↔ Text.IsAscii s) := by
  obtain rfl := SiteName.ofString?_eq_ok_iff.1 accepted
  obtain rfl := SiteName.ofString?_eq_ok_iff.1 accepted'
  rw [JobAd.separate_iff, sameIgnoringCase_heldFrom, attributeName_eq_self_iff]
  exact ⟨Iff.rfl, isPlainName_heldFrom_iff site, isPlainName_heldFrom_iff site⟩

/-- The name of one site may begin with that of another. -/
theorem heldFrom_separate_and_plain_of_hlt :
    let cern : SiteName := ⟨"T2_CH_CERN", rfl⟩
    let hlt : SiteName := ⟨"T2_CH_CERN_HLT", rfl⟩
    SiteName.ofString? "T2_CH_CERN" = .ok cern ∧ SiteName.ofString? "T2_CH_CERN_HLT" = .ok hlt ∧
      JobAd.Separate (heldFrom cern) (heldFrom hlt) ∧ isPlainName (heldFrom cern) = true ∧
      attributeName (heldFrom cern) = heldFrom cern := by
  intro cern hlt
  have accepted : SiteName.ofString? "T2_CH_CERN" = .ok cern :=
    SiteName.ofString?_eq_ok_iff.2 rfl
  have accepted' : SiteName.ofString? "T2_CH_CERN_HLT" = .ok hlt :=
    SiteName.ofString?_eq_ok_iff.2 rfl
  have ascii : Text.IsAscii "T2_CH_CERN" := by
    simp [Text.IsAscii]
  have markers := heldFrom_separate_and_plain_iff accepted accepted'
  exact ⟨accepted, accepted', markers.1.2 (by decide +kernel), markers.2.1.2 ascii,
    markers.2.2.2 ascii⟩

/-- Two sites spelled alike but for case share their marker, and one with an Arabic digit has a
marker that needs quotes. -/
theorem heldFrom_shared_and_quoted :
    let mit : SiteName := ⟨"T2_US_MIT", rfl⟩
    let mit' : SiteName := ⟨"T2_US_Mit", rfl⟩
    let fnal : SiteName := ⟨"T\u0663_US_FNAL", rfl⟩
    SiteName.ofString? "T2_US_MIT" = .ok mit ∧ SiteName.ofString? "T2_US_Mit" = .ok mit' ∧
      mit ≠ mit' ∧ ¬ JobAd.Separate (heldFrom mit) (heldFrom mit') ∧
      SiteName.ofString? "T\u0663_US_FNAL" = .ok fnal ∧ isPlainName (heldFrom fnal) = false ∧
      attributeName (heldFrom fnal) = "'HasBeenHeldFromT\u0663_US_FNAL'" := by
  intro mit mit' fnal
  have shared : ¬ JobAd.Separate (heldFrom mit) (heldFrom mit') := by
    rw [JobAd.separate_iff]
    decide +kernel
  refine ⟨by decide +kernel, by decide +kernel, by decide +kernel, shared, by decide +kernel,
    by decide +kernel, by decide +kernel⟩

end Marker

end RoutingPolicy

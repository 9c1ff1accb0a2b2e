import Mathlib
import RoutingPolicy.Proofs.Text.Trimming
import RoutingPolicy.Site.List
import RoutingPolicy.Site.Name

/-!
# Entries of site lists

An entry is never empty and has no separator in it, and a text of that kind is its own only entry.
Writing a list and reading it again yields the entries that were written, so every operation on site
lists is an operation on entries: sorting keeps them all, taking a site out drops that entry only,
and appending adds entries behind the others. An entry stands in the text of its list in one piece.
-/

namespace RoutingPolicy

set_option autoImplicit false

namespace SiteList

variable {entry list site : String}

def IsEntry (entry : String) : Prop := entry ≠ "" ∧ ∀ c ∈ entry.toList, isSeparator c = false

theorem IsEntry.isBlank_eq_false (single : IsEntry entry) :
    ∀ c ∈ entry.toList, Text.isBlank c = false := by
  intro c member
  have plain := single.2 c member
  rw [isSeparator, Bool.or_eq_false_iff] at plain
  exact plain.2

theorem IsEntry.trim_eq (single : IsEntry entry) : Text.trim entry = entry :=
  Text.trim_eq_self single.isBlank_eq_false

/-! ### Reading -/

theorem parts_of_splitOnP {p : Char → Bool} {text : List Char} :
    (∀ part ∈ text.splitOnP p, part <:+: text ∧ ∀ c ∈ part, p c = false) ∧
      ∀ part ∈ (text.splitOnP p).head?, part <+: text := by
  induction text with
  | nil => simp [List.splitOnP_nil]
  | cons c rest induction =>
      obtain ⟨inner, front⟩ := induction
      rw [List.splitOnP_cons_eq_if_modifyHead]
      split
      · constructor
        · intro part member
          rcases List.mem_cons.1 member with rfl | member
          · simp
          · obtain ⟨infix', plain⟩ := inner part member
            exact ⟨infix'.trans (List.suffix_cons c rest).isInfix, plain⟩
        · simp
      · next plainHead =>
          obtain ⟨head, parts, split⟩ := List.exists_cons_of_ne_nil (List.splitOnP_ne_nil p rest)
          rw [split, List.modifyHead_cons]
          have headPrefix : c :: head <+: c :: rest := by
            rw [List.cons_prefix_cons]
            exact ⟨rfl, front head (by rw [split]; rfl)⟩
          constructor
          · intro part member
            rcases List.mem_cons.1 member with rfl | member
            · refine ⟨headPrefix.isInfix, ?_⟩
              intro d own
              rcases List.mem_cons.1 own with rfl | own
              · simpa using plainHead
              · exact (inner head (by rw [split]; exact List.mem_cons_self)).2 d own
            · obtain ⟨infix', plain⟩ :=
                inner part (by rw [split]; exact List.mem_cons_of_mem _ member)
              exact ⟨infix'.trans (List.suffix_cons c rest).isInfix, plain⟩
          · intro part member
            obtain rfl : c :: head = part := by simpa using member
            exact headPrefix

section Parts

variable {p : Char → Bool} {piece text : List Char}

theorem exists_part_of_prefix (plain : ∀ c ∈ piece, p c = false) (front : piece <+: text) :
    ∃ part rest, text.splitOnP p = part :: rest ∧ piece <+: part := by
  induction text generalizing piece with
  | nil =>
      obtain rfl := List.prefix_nil.1 front
      exact ⟨[], [], by simp [List.splitOnP_nil], List.nil_prefix⟩
  | cons c text induction =>
      rw [List.splitOnP_cons_eq_if_modifyHead]
      rcases List.prefix_cons_iff.1 front with rfl | ⟨rest, rfl, behind⟩
      · split
        · exact ⟨_, _, rfl, List.nil_prefix⟩
        · obtain ⟨part, parts, split, _⟩ := induction plain List.nil_prefix
          exact ⟨_, _, by rw [split, List.modifyHead_cons], List.nil_prefix⟩
      · obtain ⟨part, parts, split, within⟩ :=
          induction (fun d member => plain d (List.mem_cons_of_mem _ member)) behind
        rw [if_neg (by simp [plain c List.mem_cons_self]), split, List.modifyHead_cons]
        exact ⟨_, _, rfl, (List.prefix_cons_inj c).2 within⟩

theorem exists_part_of_infix (plain : ∀ c ∈ piece, p c = false) (inside : piece <:+: text) :
    ∃ part ∈ text.splitOnP p, piece <:+: part := by
  have first : ∀ text, piece <+: text → ∃ part ∈ text.splitOnP p, piece <:+: part := by
    intro text front
    obtain ⟨part, rest, split, within⟩ := exists_part_of_prefix plain front
    exact ⟨part, by simp [split], within.isInfix⟩
  induction text with
  | nil => exact first [] (List.infix_nil.1 inside ▸ List.nil_prefix)
  | cons c text induction =>
      rcases List.infix_cons_iff.1 inside with front | behind
      · exact first _ front
      · obtain ⟨part, member, within⟩ := induction behind
        rw [List.splitOnP_cons_eq_if_modifyHead]
        split
        · exact ⟨part, List.mem_cons_of_mem _ member, within⟩
        · obtain ⟨head, parts, split⟩ := List.exists_cons_of_ne_nil (List.splitOnP_ne_nil p text)
          rw [split] at member
          rw [split, List.modifyHead_cons]
          rcases List.mem_cons.1 member with rfl | member
          · exact ⟨_, List.mem_cons_self, within.trans (List.suffix_cons c part).isInfix⟩
          · exact ⟨part, List.mem_cons_of_mem _ member, within⟩

end Parts

theorem mem_entries_iff :
    entry ∈ entries list ↔ entry ≠ "" ∧ entry.toList ∈ list.toList.splitOnP isSeparator := by
  simp only [entries, List.mem_map, List.mem_filter]
  constructor
  · intro listed
    rcases listed with ⟨part, ⟨member, filled⟩, rfl⟩
    rw [String.toList_ofList]
    refine ⟨?_, member⟩
    intro empty
    rw [← String.toList_eq_nil_iff, String.toList_ofList] at empty
    simp [empty] at filled
  · intro both
    rcases both with ⟨filled, member⟩
    refine ⟨entry.toList, ⟨member, ?_⟩, String.ofList_toList⟩
    simpa [String.toList_eq_nil_iff] using filled

theorem isEntry_of_mem (member : entry ∈ entries list) : IsEntry entry := by
  obtain ⟨filled, part⟩ := mem_entries_iff.1 member
  exact ⟨filled, (parts_of_splitOnP.1 _ part).2⟩

theorem infix_of_mem (member : entry ∈ entries list) : entry.toList <:+: list.toList :=
  (parts_of_splitOnP.1 _ (mem_entries_iff.1 member).2).1

/-- What stands in a list in one piece and has no separator in it stands in an entry. -/
theorem exists_entry_of_infix {piece : List Char} (filled : piece ≠ [])
    (plain : ∀ c ∈ piece, isSeparator c = false) (inside : piece <:+: list.toList) :
    ∃ entry ∈ entries list, piece <:+: entry.toList := by
  obtain ⟨part, member, within⟩ := exists_part_of_infix plain inside
  refine ⟨String.ofList part, ?_, by rwa [String.toList_ofList]⟩
  rw [mem_entries_iff, String.toList_ofList, Ne, ← String.toList_eq_nil_iff, String.toList_ofList]
  refine ⟨?_, member⟩
  rintro rfl
  exact filled (List.infix_nil.1 within)

@[simp] theorem entries_empty : entries "" = [] := by
  simp [entries, List.splitOnP_nil]

theorem entries_of_isEntry (single : IsEntry entry) : entries entry = [entry] := by
  have filled : entry.toList.isEmpty = false := by
    simpa [String.toList_eq_nil_iff] using single.1
  rw [entries, List.splitOnP_eq_singleton single.2]
  simp [filled, String.ofList_toList]

theorem entries_append_separator {c : Char} (separator : isSeparator c = true)
    (first second : String) :
    entries (first ++ (String.singleton c ++ second)) = entries first ++ entries second := by
  have text : (first ++ (String.singleton c ++ second)).toList =
      first.toList ++ c :: second.toList := by
    simp
  rw [entries, text, List.splitOnP_append_cons _ _ separator, List.filter_append, List.map_append]
  rfl

theorem entries_append_comma (first second : String) :
    entries (first ++ ("," ++ second)) = entries first ++ entries second := by
  rw [show "," = String.singleton ',' from rfl, entries_append_separator rfl]

/-! ### Writing -/

theorem entries_append (written entry : String) :
    entries (append written entry) = entries written ++ entries entry := by
  rw [append]
  split
  · next empty => simp [empty]
  · rw [String.append_assoc, entries_append_comma]

theorem entries_foldl_append (written : String) (listed : List String) :
    entries (listed.foldl append written) = entries written ++ listed.flatMap entries := by
  induction listed generalizing written with
  | nil => simp
  | cons entry rest induction =>
      rw [List.foldl_cons, induction, entries_append, List.flatMap_cons, List.append_assoc]

/-- Entries are read as they were written. -/
theorem entries_join {listed : List String} (single : ∀ entry ∈ listed, IsEntry entry) :
    entries (join listed) = listed := by
  rw [join, entries_foldl_append, entries_empty, List.nil_append]
  induction listed with
  | nil => rfl
  | cons entry rest induction =>
      rw [List.flatMap_cons, entries_of_isEntry (single entry List.mem_cons_self),
        induction fun e member => single e (List.mem_cons_of_mem _ member)]
      rfl

theorem entries_sorted (list : String) :
    entries (sorted list) = (SortedSet.ofList (entries list)).toList := by
  apply entries_join
  intro entry member
  have listed : entry ∈ entries list := SortedSet.mem_ofList.1 member
  exact isEntry_of_mem listed

theorem mem_entries_sorted : entry ∈ entries (sorted list) ↔ entry ∈ entries list := by
  rw [entries_sorted]
  exact SortedSet.mem_ofList

theorem entries_without (list site : String) :
    entries (without list site) = (entries list).filter (· != site) := by
  apply entries_join
  intro entry member
  exact isEntry_of_mem (List.mem_of_mem_filter member)

theorem mem_entries_without :
    entry ∈ entries (without list site) ↔ entry ∈ entries list ∧ entry ≠ site := by
  rw [entries_without, List.mem_filter, bne_iff_ne]

/-- Expanding a list keeps its entries, each where it stands first, and appends those destinations
that are not there yet. -/
theorem entries_expand {destinations : String → List String}
    (single : ∀ source ∈ entries list, ∀ destination ∈ destinations source, IsEntry destination) :
    entries (expand destinations list) =
      addAllNew (addAllNew [] (entries list))
        ((addAllNew [] (entries list)).flatMap destinations) := by
  have listed : ∀ source, source ∈ addAllNew [] (entries list) ↔ source ∈ entries list := by
    simp [mem_addAllNew]
  apply entries_join
  intro entry member
  rcases mem_addAllNew.1 member with known | added
  · exact isEntry_of_mem ((listed entry).1 known)
  · obtain ⟨source, own, sent⟩ := List.mem_flatMap.1 added
    exact single source ((listed source).1 own) entry sent

end SiteList

/-! ### Names of sites as entries -/

theorem Text.CharTable.contains_eq_false_of_apart {table other : CharTable} {c : Char}
    (apart : ∀ range ∈ table, ∀ range' ∈ other, range.2 < range'.1 ∨ range'.2 < range.1)
    (held : table.contains c = true) : other.contains c = false := by
  simp only [contains, holds, List.any_eq_true, Bool.and_eq_true, decide_eq_true_eq] at held
  obtain ⟨range, listed, low, high⟩ := held
  simp only [contains, holds, List.any_eq_false, Bool.and_eq_true, decide_eq_true_eq]
  intro range' listed'
  have between := apart range listed range' listed'
  omega

namespace SiteName

def charTable : Text.CharTable := (0x41, 0x5a) :: (0x5f, 0x5f) :: (0x61, 0x7a) :: Text.digitTable

theorem contains_charTable_of_isDecimalDigit {c : Char} (digit : Text.isDecimalDigit c = true) :
    charTable.contains c = true := by
  have held : Text.digitTable.contains c = true := digit
  simp only [Text.CharTable.contains, Text.CharTable.holds] at held
  simp [charTable, Text.CharTable.contains, Text.CharTable.holds, held]

theorem contains_charTable_of_isNameChar {c : Char} (name : isNameChar c = true) :
    charTable.contains c = true := by
  have place : (65 ≤ c.toNat ∧ c.toNat ≤ 90) ∨ (97 ≤ c.toNat ∧ c.toNat ≤ 122) ∨ c.toNat = 95 := by
    simp only [isNameChar, isCapital, Bool.or_eq_true, Bool.and_eq_true, decide_eq_true_eq,
      beq_iff_eq] at name
    rcases name with (⟨low, high⟩ | ⟨low, high⟩) | rfl
    · exact .inl ⟨UInt32.le_iff_toNat_le.1 low, UInt32.le_iff_toNat_le.1 high⟩
    · exact .inr (.inl ⟨UInt32.le_iff_toNat_le.1 low, UInt32.le_iff_toNat_le.1 high⟩)
    · exact .inr (.inr rfl)
  simp only [charTable, Text.CharTable.contains, Text.CharTable.holds, List.any_cons,
    Bool.or_eq_true, Bool.and_eq_true, decide_eq_true_eq]
  omega

theorem contains_charTable (site : SiteName) :
    ∀ c ∈ site.text.toList, charTable.contains c = true := by
  obtain ⟨digit, _, _, _, _, spelled⟩ := site.exists_isSpelled
  intro c member
  rcases spelled.eq_digit_or_isNameChar member with rfl | letter
  · exact contains_charTable_of_isDecimalDigit spelled.digit
  · exact contains_charTable_of_isNameChar letter

theorem isSeparator_of_contains_charTable {c : Char} (held : charTable.contains c = true) :
    SiteList.isSeparator c = false := by
  have apart : ∀ range ∈ charTable, ∀ range' ∈ (0x2c, 0x2c) :: Text.blankTable,
      range.2 < range'.1 ∨ range'.2 < range.1 := by
    decide +kernel
  have other := Text.CharTable.contains_eq_false_of_apart apart held
  simp only [Text.CharTable.contains, Text.CharTable.holds, List.any_cons, Bool.or_eq_false_iff]
    at other
  have comma : c ≠ ',' := by
    rintro rfl
    exact absurd other.1 (by decide)
  rw [SiteList.isSeparator, Bool.or_eq_false_iff]
  exact ⟨by simpa using comma, other.2⟩

theorem isEntry_append (site : SiteName) {rest : String}
    (plain : ∀ c ∈ rest.toList, SiteList.isSeparator c = false) :
    SiteList.IsEntry (site.text ++ rest) := by
  constructor
  · intro empty
    have form := site.form
    rw [(String.append_eq_empty_iff.1 empty).1] at form
    simp [hasSiteForm] at form
  · intro c member
    rw [String.toList_append, List.mem_append] at member
    rcases member with own | member
    · exact isSeparator_of_contains_charTable (site.contains_charTable c own)
    · exact plain c member

theorem isEntry (site : SiteName) : SiteList.IsEntry site.text := by
  have nothing : ∀ c ∈ "".toList, SiteList.isSeparator c = false := by
    simp
  have whole := site.isEntry_append nothing
  rwa [String.append_empty] at whole

end SiteName

end RoutingPolicy

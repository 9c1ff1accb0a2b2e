import Mathlib.Data.List.DropRight
import RoutingPolicy.Text.Blank

/-!
# Trimmed texts

What is left of a text is a part of it, and trimming it again takes nothing more.
-/

set_option autoImplicit false

namespace RoutingPolicy.Text

theorem trimRight_trimRight (cs : List Char) : trimRight (trimRight cs) = trimRight cs :=
  List.rdropWhile_idempotent isBlank cs

theorem dropWhile_trimRight {cs : List Char} (front : cs.dropWhile isBlank = cs) :
    (trimRight cs).dropWhile isBlank = trimRight cs := by
  have begins : trimRight cs <+: cs := List.rdropWhile_prefix isBlank cs
  cases kept : trimRight cs with
  | nil => rfl
  | cons c rest =>
      rw [kept] at begins
      rcases begins with ⟨cut, whole⟩
      rw [← whole, List.cons_append] at front
      have plain : isBlank c = false := by
        rw [Bool.eq_false_iff]
        intro blank
        rw [List.dropWhile_cons, if_pos blank] at front
        have shorter := (List.dropWhile_sublist isBlank (l := rest ++ cut)).length_le
        rw [front, List.length_cons] at shorter
        omega
      rw [List.dropWhile_cons, plain]
      rfl

theorem trim_trim (s : String) : trim (trim s) = trim s := by
  have front := dropWhile_trimRight (List.dropWhile_idempotent (p := isBlank) s.toList)
  rw [trim, trim, String.toList_ofList, front, trimRight_trimRight]

theorem mem_of_mem_trim {s : String} {c : Char} (member : c ∈ (trim s).toList) : c ∈ s.toList := by
  rw [trim, String.toList_ofList] at member
  have kept := (List.rdropWhile_prefix isBlank _).subset member
  exact (List.dropWhile_sublist isBlank).subset kept

theorem dropWhile_isBlank_eq_self {cs : List Char} (plain : ∀ c ∈ cs, isBlank c = false) :
    cs.dropWhile isBlank = cs := by
  cases cs with
  | nil => rfl
  | cons c rest =>
      rw [List.dropWhile_cons, plain c List.mem_cons_self]
      rfl

theorem trim_eq_self {s : String} (plain : ∀ c ∈ s.toList, isBlank c = false) : trim s = s := by
  have back : ∀ c ∈ s.toList.reverse, isBlank c = false := fun c member =>
    plain c (List.mem_reverse.1 member)
  rw [trim, trimRight, dropWhile_isBlank_eq_self plain, dropWhile_isBlank_eq_self back,
    List.reverse_reverse, String.ofList_toList]

theorem isBlank_eq_false_of_isDigit {c : Char} (digit : c.isDigit = true) : isBlank c = false := by
  have place : 48 ≤ c.toNat ∧ c.toNat ≤ 57 := by
    simp only [Char.isDigit, Bool.and_eq_true, decide_eq_true_eq] at digit
    exact ⟨UInt32.le_iff_toNat_le.1 digit.1, UInt32.le_iff_toNat_le.1 digit.2⟩
  simp only [isBlank, CharTable.contains, CharTable.holds, List.any_eq_false, Bool.and_eq_true,
    decide_eq_true_eq]
  intro range listed
  have apart : ∀ range ∈ blankTable, range.2 < 48 ∨ 57 < range.1 := by decide
  have := apart range listed
  omega

theorem mem_nonblank {texts : List String} {s : String} :
    s ∈ nonblank texts ↔ (∃ text ∈ texts, trim text = s) ∧ s ≠ "" := by
  simp only [nonblank, List.mem_filter, List.mem_map, bne_iff_ne]

end RoutingPolicy.Text

/-!
# Folding the case of ASCII letters

Names of attributes and some comparisons of strings disregard the case of the letters A to Z and
of no other character. `foldCase` sends a text to its representative in small letters, which is its
own representative (`foldCase_foldCase`).
-/

set_option autoImplicit false

namespace RoutingPolicy.Text

def foldCase (s : String) : String := String.ofList (s.toList.map Char.toLower)

/-- Whether two texts differ at most in the case of the letters A to Z. -/
def sameIgnoringCase (s t : String) : Bool := foldCase s == foldCase t

@[simp] theorem toList_foldCase (s : String) :
    (foldCase s).toList = s.toList.map Char.toLower := String.toList_ofList

theorem foldCase_append (s t : String) : foldCase (s ++ t) = foldCase s ++ foldCase t := by
  apply String.toList_injective
  simp only [toList_foldCase, String.toList_append, List.map_append]

theorem foldCase_append_left_inj {front s t : String} :
    foldCase (front ++ s) = foldCase (front ++ t) ↔ foldCase s = foldCase t := by
  simp only [foldCase_append, ← String.toList_inj, String.toList_append, List.append_right_inj]

theorem sameIgnoringCase_iff {s t : String} :
    sameIgnoringCase s t = true ↔ foldCase s = foldCase t := by
  simp [sameIgnoringCase]

theorem sameIgnoringCase_eq_false_iff {s t : String} :
    sameIgnoringCase s t = false ↔ foldCase s ≠ foldCase t := by
  simp [sameIgnoringCase]

@[simp] theorem sameIgnoringCase_refl (s : String) : sameIgnoringCase s s = true :=
  sameIgnoringCase_iff.2 rfl

theorem sameIgnoringCase_comm (s t : String) : sameIgnoringCase s t = sameIgnoringCase t s := by
  rw [Bool.eq_iff_iff, sameIgnoringCase_iff, sameIgnoringCase_iff]
  exact eq_comm

/-! ### The letters A to Z -/

theorem isUpper_iff {c : Char} : c.isUpper = true ↔ 65 ≤ c.toNat ∧ c.toNat ≤ 90 :=
  decide_eq_true_iff.trans (and_congr UInt32.le_iff_toNat_le UInt32.le_iff_toNat_le)

theorem toNat_toLower (c : Char) :
    c.toLower.toNat = if c.isUpper = true then c.toNat + 32 else c.toNat := by
  by_cases upper : c.isUpper = true
  · have smaller : c.toLower = ⟨c.val + ('a'.val - 'A'.val), _⟩ := dif_pos (of_decide_eq_true upper)
    have high : c.val.toNat ≤ 90 := (isUpper_iff.1 upper).2
    rw [if_pos upper, smaller]
    exact (UInt32.toNat_add _ _).trans
      (Nat.mod_eq_of_lt (Nat.lt_of_le_of_lt (Nat.add_le_add_right high 32) (by decide)))
  · have fixed : c.toLower = c := dif_neg fun bounds => upper (decide_eq_true bounds)
    rw [if_neg upper, fixed]

theorem toLower_toLower (c : Char) : c.toLower.toLower = c.toLower := by
  have small : ¬c.toLower.isUpper = true := by
    rw [isUpper_iff, toNat_toLower]
    split
    · next upper => have := isUpper_iff.1 upper; omega
    · next other => rwa [← isUpper_iff]
  rw [← Char.toNat_inj, toNat_toLower c.toLower, if_neg small]

theorem foldCase_foldCase (s : String) : foldCase (foldCase s) = foldCase s := by
  apply String.toList_injective
  rw [toList_foldCase, toList_foldCase, List.map_map]
  exact List.map_congr_left fun c _ => toLower_toLower c

end RoutingPolicy.Text

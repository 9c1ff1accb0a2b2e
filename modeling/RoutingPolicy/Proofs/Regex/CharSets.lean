import RoutingPolicy.Proofs.Text.CaseFolding
import RoutingPolicy.Regex.CharSet

/-!
# Sets of characters and their tables

The matcher asks a set whether it has a character; the size of the compiled pattern depends on the
table of the set. Both say the same.
-/

set_option autoImplicit false

namespace RoutingPolicy.CharSet

open Text

theorem isNormal_table (set : CharSet) : set.table.IsNormal := by
  induction set with
  | empty => exact ⟨nofun, List.Pairwise.nil⟩
  | range first last =>
    unfold table
    split
    · next ascending =>
      refine ⟨fun r member => ?_, List.pairwise_singleton _ _⟩
      rw [List.mem_singleton.1 member]
      exact ascending
    · exact ⟨nofun, List.Pairwise.nil⟩
  | listed => exact CharTable.isNormal_normal _
  | digit | blank | word => exact CharTable.isNormal_normal _
  | union a b onA onB => exact CharTable.isNormal_union onA onB
  | inter a b onA onB => exact CharTable.isNormal_inter onA onB
  | minus a b onA onB => exact CharTable.isNormal_inter onA (CharTable.isNormal_compl onB)
  | symmDiff a b onA onB =>
    exact CharTable.isNormal_inter (CharTable.isNormal_union onA onB)
      (CharTable.isNormal_compl (CharTable.isNormal_inter onA onB))
  | compl a onA => exact CharTable.isNormal_compl onA
  | folded a onA => exact isNormal_folded onA

theorem contains_range_table (first last c : Char) :
    (range first last).table.contains c = (range first last).contains c := by
  have order : first ≤ last ↔ first.toNat ≤ last.toNat := Iff.rfl
  have bounds : (range first last).contains c =
      (decide (first.toNat ≤ c.toNat) && decide (c.toNat ≤ last.toNat)) := rfl
  rw [bounds, table]
  split
  · simp [CharTable.contains, CharTable.holds]
  · next descending =>
    rw [order] at descending
    simp only [CharTable.contains, CharTable.holds, List.any_nil, Bool.false_eq,
      Bool.and_eq_false_iff, decide_eq_false_iff_not]
    omega

/-- A set has just the characters that its table holds. -/
theorem contains_table (set : CharSet) (c : Char) : set.table.contains c = set.contains c := by
  induction set generalizing c with
  | empty => rfl
  | range first last => exact contains_range_table first last c
  | listed table => exact CharTable.holds_normal table c.toNat
  | digit => exact CharTable.holds_normal digitTable c.toNat
  | blank => exact CharTable.holds_normal blankTable c.toNat
  | word => exact CharTable.holds_normal wordTable c.toNat
  | union a b onA onB =>
    rw [table, CharTable.contains_union a.isNormal_table b.isNormal_table, onA, onB, contains]
  | inter a b onA onB =>
    rw [table, CharTable.contains_inter a.isNormal_table b.isNormal_table, onA, onB, contains]
  | minus a b onA onB =>
    rw [table, CharTable.contains_inter a.isNormal_table
      (CharTable.isNormal_compl b.isNormal_table), CharTable.contains_compl b.isNormal_table,
      onA, onB, contains]
  | symmDiff a b onA onB =>
    have normalA := a.isNormal_table
    have normalB := b.isNormal_table
    rw [table, CharTable.contains_inter (CharTable.isNormal_union normalA normalB)
      (CharTable.isNormal_compl (CharTable.isNormal_inter normalA normalB)),
      CharTable.contains_compl (CharTable.isNormal_inter normalA normalB),
      CharTable.contains_inter normalA normalB, CharTable.contains_union normalA normalB,
      onA, onB, contains]
    cases a.contains c <;> cases b.contains c <;> rfl
  | compl a onA => rw [table, CharTable.contains_compl a.isNormal_table, onA, contains]
  | folded a onA =>
    rw [table, contains_folded a.isNormal_table, contains]
    exact congrArg (List.any _) (funext onA)

end RoutingPolicy.CharSet

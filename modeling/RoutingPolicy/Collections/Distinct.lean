/-!
# Lists without repetition, in order of first occurrence

`mem_addAllNew` and `nodup_addAllNew` say that adding keeps exactly the members of both lists and
never makes a repetition. By `addAllNew_eq` what is added are the first occurrences of the items
that were not there.
-/

set_option autoImplicit false

namespace RoutingPolicy

variable {α : Type} [BEq α] [LawfulBEq α]

/-- Adds an item at the end unless it is there. -/
def addNew (items : List α) (item : α) : List α :=
  if items.contains item then items else items ++ [item]

def addAllNew (items more : List α) : List α := more.foldl addNew items

theorem mem_addNew {items : List α} {item a : α} :
    a ∈ addNew items item ↔ a ∈ items ∨ a = item := by
  unfold addNew
  split
  · next h =>
    rw [List.contains_iff_mem] at h
    exact ⟨.inl, fun ha => ha.elim id fun e => e ▸ h⟩
  · simp

theorem nodup_addNew {items : List α} {item : α} (h : items.Nodup) : (addNew items item).Nodup := by
  unfold addNew
  split
  · exact h
  · next hnew =>
    rw [List.contains_iff_mem] at hnew
    exact List.nodup_append.2 ⟨h, by simp, fun a ha b hb => by
      rw [List.mem_singleton.1 hb]
      exact fun e => hnew (e ▸ ha)⟩

theorem mem_addAllNew {items more : List α} {a : α} :
    a ∈ addAllNew items more ↔ a ∈ items ∨ a ∈ more := by
  induction more generalizing items with
  | nil => simp [addAllNew]
  | cons item rest ih =>
    show a ∈ addAllNew (addNew items item) rest ↔ _
    rw [ih, mem_addNew, List.mem_cons, or_assoc]

theorem nodup_addAllNew {items more : List α} (h : items.Nodup) : (addAllNew items more).Nodup := by
  induction more generalizing items with
  | nil => exact h
  | cons item rest ih => exact ih (nodup_addNew h)

theorem addAllNew_eq (items more : List α) :
    addAllNew items more = items ++ (more.removeAll items).eraseDups := by
  induction more generalizing items with
  | nil => simp [addAllNew]
  | cons item rest ih =>
    show addAllNew (addNew items item) rest = _
    rw [ih, addNew]
    split
    · next known => rw [List.cons_removeAll, known]; rfl
    · next unknown =>
      have others : rest.removeAll (items ++ [item]) =
          (rest.removeAll items).filter fun a => !a == item := by
        rw [List.removeAll, List.removeAll, List.filter_filter]
        refine List.filter_congr fun a _ => ?_
        rw [Bool.eq_iff_iff]
        simp [and_comm]
      rw [List.contains_iff_mem] at unknown
      simp [unknown, List.cons_removeAll, List.eraseDups_cons, others]

theorem addAllNew_eq_eraseDups (items : List α) : addAllNew [] items = items.eraseDups := by
  simp [addAllNew_eq]

end RoutingPolicy

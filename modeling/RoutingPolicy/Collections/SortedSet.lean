/-!
# Finite sets as ascending lists

A `SortedSet κ` lists its elements in strictly ascending order, each once. Main statements:
`mem_insert` and `mem_ofList` say which elements a set has, and `ext` says that the elements
determine the set, so neither order nor repetition of the input shows.
-/

set_option autoImplicit false

namespace RoutingPolicy

open Std

variable {κ : Type} [Ord κ]

/-- A list in which every element is smaller than all that follow it. -/
def Ascending (elements : List κ) : Prop :=
  elements.Pairwise fun a b => compare a b = .lt

theorem Ascending.pairwise_lt {texts : List String} (h : Ascending texts) :
    texts.Pairwise (· < ·) :=
  h.imp fun hlt => compareOfLessAndEq_eq_lt.1 hlt

structure SortedSet (κ : Type) [Ord κ] where
  toList : List κ
  /-- Every element is smaller than all that follow it. -/
  ascending : Ascending toList

namespace SortedSet

def insertSorted (k : κ) : List κ → List κ
  | [] => [k]
  | k' :: rest =>
    match compare k k' with
    | .lt => k :: k' :: rest
    | .eq => k' :: rest
    | .gt => k' :: insertSorted k rest

theorem mem_insertSorted [LawfulEqOrd κ] {k a : κ} {l : List κ} :
    a ∈ insertSorted k l ↔ a = k ∨ a ∈ l := by
  induction l with
  | nil => simp [insertSorted]
  | cons head rest ih =>
    simp only [insertSorted]
    split
    · simp
    · next heq => obtain rfl := LawfulEqOrd.eq_of_compare heq; simp
    · simp [ih]; grind

theorem ascending_insertSorted [TransOrd κ] [LawfulEqOrd κ] (k : κ) {l : List κ}
    (h : Ascending l) : Ascending (insertSorted k l) := by
  induction l with
  | nil => simp [insertSorted, Ascending]
  | cons head rest ih =>
    have hrest : Ascending rest := h.of_cons
    have hhead : ∀ a ∈ rest, compare head a = .lt := fun a ha => List.rel_of_pairwise_cons h ha
    simp only [insertSorted]
    split
    · next hlt =>
      refine List.Pairwise.cons ?_ h
      intro a ha
      rcases List.mem_cons.1 ha with rfl | ha
      · exact hlt
      · exact TransCmp.lt_trans hlt (hhead a ha)
    · exact h
    · next hgt =>
      refine List.Pairwise.cons ?_ (ih hrest)
      intro a ha
      rcases mem_insertSorted.1 ha with rfl | ha
      · exact OrientedCmp.lt_of_gt hgt
      · exact hhead a ha

def empty : SortedSet κ := ⟨[], List.Pairwise.nil⟩

instance : Inhabited (SortedSet κ) := ⟨empty⟩

instance : Membership κ (SortedSet κ) := ⟨fun s a => a ∈ s.toList⟩

def insert [TransOrd κ] [LawfulEqOrd κ] (s : SortedSet κ) (k : κ) : SortedSet κ :=
  ⟨insertSorted k s.toList, ascending_insertSorted k s.ascending⟩

def ofList [TransOrd κ] [LawfulEqOrd κ] (l : List κ) : SortedSet κ :=
  l.foldl insert empty

def isEmpty (s : SortedSet κ) : Bool := s.toList.isEmpty

def contains [DecidableEq κ] (s : SortedSet κ) (k : κ) : Bool := decide (k ∈ s.toList)

@[simp] theorem not_mem_empty (a : κ) : ¬ a ∈ (empty : SortedSet κ) := List.not_mem_nil

theorem mem_insert [TransOrd κ] [LawfulEqOrd κ] {s : SortedSet κ} {k a : κ} :
    a ∈ s.insert k ↔ a = k ∨ a ∈ s :=
  mem_insertSorted

theorem mem_foldl_insert [TransOrd κ] [LawfulEqOrd κ] {l : List κ} {s : SortedSet κ} {a : κ} :
    a ∈ l.foldl insert s ↔ a ∈ l ∨ a ∈ s := by
  induction l generalizing s with
  | nil => simp
  | cons head rest ih => simp [ih, mem_insert]; grind

theorem mem_ofList [TransOrd κ] [LawfulEqOrd κ] {l : List κ} {a : κ} : a ∈ ofList l ↔ a ∈ l := by
  simp [ofList, mem_foldl_insert]

theorem eq_of_mem_iff [TransOrd κ] {l l' : List κ} (h : Ascending l) (h' : Ascending l')
    (hmem : ∀ a, a ∈ l ↔ a ∈ l') : l = l' := by
  induction l generalizing l' with
  | nil =>
    cases l' with
    | nil => rfl
    | cons head rest => exact absurd ((hmem head).2 (by simp)) (by simp)
  | cons head rest ih =>
    cases l' with
    | nil => exact absurd ((hmem head).1 (by simp)) (by simp)
    | cons head' rest' =>
      have hhead : ∀ a ∈ rest, compare head a = .lt :=
        fun a ha => List.rel_of_pairwise_cons h ha
      have hhead' : ∀ a ∈ rest', compare head' a = .lt :=
        fun a ha => List.rel_of_pairwise_cons h' ha
      have hirr : ∀ a : κ, compare a a ≠ .lt := fun a ha => by simp at ha
      have heq : head = head' := by
        rcases List.mem_cons.1 ((hmem head).1 (by simp)) with e | e
        · exact e
        rcases List.mem_cons.1 ((hmem head').2 (by simp)) with e' | e'
        · exact e'.symm
        exact absurd (TransCmp.lt_trans (hhead' _ e) (hhead _ e')) (hirr _)
      subst heq
      congr 1
      refine ih h.of_cons h'.of_cons fun a => ⟨fun ha => ?_, fun ha => ?_⟩
      · rcases List.mem_cons.1 ((hmem a).1 (by simp [ha])) with rfl | ha'
        · exact absurd (hhead _ ha) (hirr _)
        · exact ha'
      · rcases List.mem_cons.1 ((hmem a).2 (by simp [ha])) with rfl | ha'
        · exact absurd (hhead' _ ha) (hirr _)
        · exact ha'

theorem ext [TransOrd κ] {s s' : SortedSet κ} (h : ∀ a, a ∈ s ↔ a ∈ s') : s = s' := by
  have hlist : s.toList = s'.toList := eq_of_mem_iff s.ascending s'.ascending h
  cases s; cases s'; simp_all

theorem ofList_congr [TransOrd κ] [LawfulEqOrd κ] {l l' : List κ} (h : ∀ a, a ∈ l ↔ a ∈ l') :
    ofList l = ofList l' := by
  apply ext
  intro a
  rw [mem_ofList, mem_ofList, h]

instance [DecidableEq κ] : DecidableEq (SortedSet κ) := fun s s' =>
  decidable_of_iff (s.toList = s'.toList)
    ⟨fun h => by cases s; cases s'; simp_all, fun h => by rw [h]⟩

end SortedSet

end RoutingPolicy

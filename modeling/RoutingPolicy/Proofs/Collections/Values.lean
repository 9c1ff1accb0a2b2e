import RoutingPolicy.Collections.SortedMap

/-!
# Maps whose values are changed one by one

Changing every value by one function commutes with entering, altering and merging. So when values
are brought into a normal form, it does not matter whether that happens before or after a map is
built.
-/

set_option autoImplicit false

namespace RoutingPolicy

theorem map_eq_self_iff {α : Type} {f : α → α} {l : List α} : l.map f = l ↔ ∀ a ∈ l, f a = a := by
  have pointwise : l.map f = l.map id ↔ ∀ a ∈ l, f a = id a := List.map_inj_left
  rwa [List.map_id] at pointwise

namespace SortedMap

open Std

variable {κ α β : Type} [Ord κ]

def mapValues (g : α → β) (m : SortedMap κ α) : SortedMap κ β := m.filterMap fun _ a => some (g a)

theorem entries_mapValues (g : α → β) (m : SortedMap κ α) :
    (m.mapValues g).entries = m.entries.map fun e => (e.1, g e.2) := by
  rw [mapValues, filterMap]
  simp only [Option.map_some, List.filterMap_eq_map']

theorem mapValues_eq_self_iff {g : α → α} {m : SortedMap κ α} :
    m.mapValues g = m ↔ ∀ a ∈ m.values, g a = a := by
  have entries : m.mapValues g = m ↔ (m.mapValues g).entries = m.entries := by
    cases m
    exact ⟨congrArg _, fun same => by rw [mk.injEq]; exact same⟩
  rw [entries, entries_mapValues, map_eq_self_iff, values, List.forall_mem_map]
  refine forall₂_congr fun e _ => ?_
  rw [Prod.ext_iff]
  exact and_iff_right rfl

variable [TransOrd κ] [LawfulEqOrd κ] {g : α → β}

theorem get?_mapValues (m : SortedMap κ α) (k : κ) :
    (m.mapValues g).get? k = (m.get? k).map g := by
  rw [mapValues, get?_filterMap, Option.map_eq_bind]
  rfl

variable [DecidableEq κ]

theorem mapValues_alter {f : Option α → Option α} {f' : Option β → Option β}
    (commutes : ∀ a, (f a).map g = f' (a.map g)) (m : SortedMap κ α) (k : κ) :
    (m.alter k f).mapValues g = (m.mapValues g).alter k f' := by
  apply ext_get?
  intro k'
  rw [get?_mapValues, get?_alter, get?_alter, get?_mapValues, get?_mapValues]
  split
  · exact commutes _
  · rfl

theorem mapValues_insert (m : SortedMap κ α) (k : κ) (a : α) :
    (m.insert k a).mapValues g = (m.mapValues g).insert k (g a) := by
  refine mapValues_alter (fun old => ?_) m k
  rfl

theorem mapValues_insertIfNew (m : SortedMap κ α) (k : κ) (a : α) :
    (m.insertIfNew k a).mapValues g = (m.mapValues g).insertIfNew k (g a) := by
  refine mapValues_alter (fun old => ?_) m k
  cases old <;> rfl

theorem mapValues_ofList (pairs : List (κ × α)) :
    (ofList pairs).mapValues g = ofList (pairs.map fun e => (e.1, g e.2)) := by
  rw [ofList, ofList, List.foldl_map]
  exact (List.foldl_hom (mapValues g) fun m e => (mapValues_insert m e.1 e.2).symm).symm

theorem mapValues_orElse (m other : SortedMap κ α) :
    (m.orElse other).mapValues g = (m.mapValues g).orElse (other.mapValues g) := by
  rw [orElse, orElse, entries_mapValues, List.foldl_map]
  exact (List.foldl_hom (mapValues g) fun m e => (mapValues_insertIfNew m e.1 e.2).symm).symm

end SortedMap

end RoutingPolicy

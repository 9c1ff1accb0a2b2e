import Mathlib.Data.List.Induction
import Mathlib.Data.List.Nodup
import RoutingPolicy.Collections.SortedMap

/-!
# Look-ups in maps made of others

A map that is made of a list has the last value of each key, and the entries of a map make the map
again. If no key is repeated in the list, its pairs are the entries, in whatever order they are.
What is missing in one map is looked up in the map that it is filled up with. Under keys that two
maps look up alike they have the same entries, in the same order.
-/

set_option autoImplicit false

namespace RoutingPolicy.SortedMap

open Std

variable {κ α : Type} [Ord κ] [TransOrd κ] [LawfulEqOrd κ] [DecidableEq κ]

omit [LawfulEqOrd κ] [DecidableEq κ] in
theorem ofList_append_singleton (pairs : List (κ × α)) (e : κ × α) :
    ofList (pairs ++ [e]) = (ofList pairs).insert e.1 e.2 := by
  rw [ofList, ofList, List.foldl_append, List.foldl_cons, List.foldl_nil]

omit [DecidableEq κ] in
theorem mem_keys_iff {m : SortedMap κ α} {k : κ} : k ∈ m.keys ↔ (m.get? k).isSome = true := by
  simp [keys, Option.isSome_iff_exists, get?_eq_some_iff]

theorem mem_keys_ofList {pairs : List (κ × α)} {k : κ} :
    k ∈ (ofList pairs).keys ↔ k ∈ pairs.map (·.1) := by
  induction pairs using List.reverseRecOn with
  | nil => exact Iff.rfl
  | append_singleton pairs e induction =>
      rw [mem_keys_iff] at induction
      rw [ofList_append_singleton, mem_keys_iff, get?_insert, List.map_append, List.mem_append,
        ← induction, List.map_singleton, List.mem_singleton]
      split
      · next same => simp [same]
      · next other => simp [other]

theorem get?_insertAll {entered : List (κ × α)} (ascending : AscendingKeys entered)
    (m : SortedMap κ α) (k : κ) :
    (entered.foldl (fun m e => m.insert e.1 e.2) m).get? k = (lookup k entered).or (m.get? k) := by
  induction entered generalizing m with
  | nil => rfl
  | cons e entered induction =>
      rw [List.foldl_cons, induction ascending.of_cons, get?_insert]
      by_cases own : k = e.1
      · have once : lookup k entered = none :=
          lookup_eq_none_of_lt fun later listed => own ▸ List.rel_of_pairwise_cons ascending listed
        rw [once, if_pos own, lookup, own, if_pos compare_self]
        rfl
      · have other : compare k e.1 ≠ .eq := fun same => own (LawfulEqOrd.eq_of_compare same)
        rw [if_neg own, lookup, if_neg other]

@[simp] theorem ofList_entries (m : SortedMap κ α) : ofList m.entries = m := by
  refine ext_get? fun k => ?_
  rw [ofList, get?_insertAll m.ascending, get?_empty, Option.or_none]
  rfl

/-! ### Lists in which no key is repeated -/

theorem get?_ofList_eq_some_iff {pairs : List (κ × α)} (distinct : (pairs.map (·.1)).Nodup)
    {k : κ} {a : α} : (ofList pairs).get? k = some a ↔ (k, a) ∈ pairs := by
  induction pairs using List.reverseRecOn with
  | nil => simp [ofList]
  | append_singleton pairs e induction =>
      rw [List.map_append, List.map_singleton, List.nodup_append', List.disjoint_singleton]
        at distinct
      obtain ⟨distinct, -, fresh⟩ := distinct
      rw [ofList_append_singleton, get?_insert, List.mem_append, List.mem_singleton]
      split
      · next own =>
          have unlisted : (k, a) ∉ pairs := fun listed =>
            fresh (own ▸ List.mem_map_of_mem (f := (·.1)) listed)
          rw [Option.some.injEq, or_iff_right unlisted, Prod.ext_iff, eq_comm]
          exact (and_iff_right own).symm
      · next other =>
          have apart : (k, a) ≠ e := fun same => other (congrArg (·.1) same)
          rw [induction distinct, or_iff_left apart]

omit [LawfulEqOrd κ] [DecidableEq κ] in
theorem nodup_keys (m : SortedMap κ α) : (m.entries.map (·.1)).Nodup := by
  refine List.pairwise_map.2 (m.ascending.imp fun smaller same => ?_)
  rw [same, compare_self] at smaller
  cases smaller

theorem entries_ofList_perm {pairs : List (κ × α)} (distinct : (pairs.map (·.1)).Nodup) :
    (ofList pairs).entries.Perm pairs := by
  have once := List.Nodup.of_map _ (ofList pairs).nodup_keys
  refine (List.perm_ext_iff_of_nodup once (List.Nodup.of_map _ distinct)).2 fun e => ?_
  rw [← get?_eq_some_iff, get?_ofList_eq_some_iff distinct]

theorem ofList_eq_of_perm {pairs pairs' : List (κ × α)} (distinct : (pairs.map (·.1)).Nodup)
    (permuted : pairs.Perm pairs') : ofList pairs = ofList pairs' := by
  have distinct' := (permuted.map (·.1)).nodup_iff.1 distinct
  refine ext_get? fun k => Option.ext fun a => ?_
  rw [get?_ofList_eq_some_iff distinct, get?_ofList_eq_some_iff distinct', permuted.mem_iff]

/-! ### Maps that are filled up -/

theorem get?_orElse (m other : SortedMap κ α) (k : κ) :
    (m.orElse other).get? k = (m.get? k).or (other.get? k) := by
  have entered (l : List (κ × α)) : (l.foldl (fun m e => m.insertIfNew e.1 e.2) m).get? k =
      (m.get? k).or (lookup k l) := by
    induction l generalizing m with
    | nil => exact (Option.or_none ..).symm
    | cons e l induction =>
        rw [List.foldl_cons, induction, get?_insertIfNew]
        by_cases own : k = e.1
        · rw [if_pos own, lookup, own, if_pos compare_self]
          cases m.get? e.1 <;> rfl
        · have other : compare k e.1 ≠ .eq := fun same => own (LawfulEqOrd.eq_of_compare same)
          rw [if_neg own, lookup, if_neg other]
  exact entered other.entries

omit [DecidableEq κ] in
theorem filter_entries_congr {m m' : SortedMap κ α} (p : κ → Bool)
    (same : ∀ k, p k = true → m.get? k = m'.get? k) :
    m.entries.filter (fun e => p e.1) = m'.entries.filter fun e => p e.1 := by
  refine eq_of_mem_iff (m.ascending.filter _) (m'.ascending.filter _) fun e => ?_
  rw [List.mem_filter, List.mem_filter, ← get?_eq_some_iff, ← get?_eq_some_iff]
  refine and_congr_left fun chosen => ?_
  rw [same e.1 chosen]

end RoutingPolicy.SortedMap

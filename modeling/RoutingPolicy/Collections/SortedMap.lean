/-!
# Finite maps as ascending lists of entries

A `SortedMap κ α` keeps its entries in strictly ascending key order, each key once, and the type
carries the proof. Two maps with the same entries are therefore equal, iteration order is part of
the value, and no operation depends on the order in which entries arrived. Main statements:
`get?_insert`, `get?_erase` and `get?_alter` say what a look-up sees after an update, and
`ext_get?` says that look-ups determine the map.
-/

set_option autoImplicit false

namespace RoutingPolicy

open Std

variable {κ α β : Type} [Ord κ]

def AscendingKeys (entries : List (κ × α)) : Prop :=
  entries.Pairwise fun a b => compare a.1 b.1 = .lt

/-- A finite map from keys to values, listed in ascending key order. -/
structure SortedMap (κ α : Type) [Ord κ] where
  entries : List (κ × α)
  /-- Every key is smaller than all that follow it. -/
  ascending : AscendingKeys entries

namespace SortedMap

def lookup (k : κ) : List (κ × α) → Option α
  | [] => none
  | (k', v) :: rest => if compare k k' = .eq then some v else lookup k rest

/-- Puts what `f` makes of the value at `k` in the place of `k`, or drops the entry. -/
def alterEntries (k : κ) (f : Option α → Option α) : List (κ × α) → List (κ × α)
  | [] => match f none with
    | none => []
    | some v => [(k, v)]
  | (k', v') :: rest =>
    match compare k k' with
    | .lt => match f none with
      | none => (k', v') :: rest
      | some v => (k, v) :: (k', v') :: rest
    | .eq => match f (some v') with
      | none => rest
      | some v => (k, v) :: rest
    | .gt => (k', v') :: alterEntries k f rest

theorem mem_alterEntries {k : κ} {f : Option α → Option α} {e : κ × α} {l : List (κ × α)}
    (h : e ∈ alterEntries k f l) : e.1 = k ∨ e ∈ l := by
  induction l with
  | nil => cases hf : f none <;> simp_all [alterEntries]
  | cons head rest ih =>
    obtain ⟨k', v'⟩ := head
    simp only [alterEntries] at h
    split at h <;> (try split at h) <;> grind

theorem ascending_alterEntries [TransOrd κ] (k : κ) (f : Option α → Option α)
    {l : List (κ × α)} (h : AscendingKeys l) : AscendingKeys (alterEntries k f l) := by
  induction l with
  | nil => cases hf : f none <;> simp [alterEntries, AscendingKeys, hf]
  | cons head rest ih =>
    obtain ⟨k', v'⟩ := head
    have hrest : AscendingKeys rest := h.of_cons
    have hhead : ∀ e ∈ rest, compare k' e.1 = .lt := fun e he => List.rel_of_pairwise_cons h he
    simp only [alterEntries]
    split
    · next hlt =>
      split
      · exact h
      · refine List.Pairwise.cons ?_ h
        intro e he
        rcases List.mem_cons.1 he with rfl | he
        · exact hlt
        · exact TransCmp.lt_trans hlt (hhead e he)
    · next heq =>
      split
      · exact hrest
      · refine List.Pairwise.cons ?_ hrest
        intro e he
        exact TransCmp.lt_of_eq_of_lt heq (hhead e he)
    · next hgt =>
      refine List.Pairwise.cons ?_ (ih hrest)
      intro e he
      rcases mem_alterEntries he with rfl | he
      · exact OrientedCmp.lt_of_gt hgt
      · exact hhead e he

def empty : SortedMap κ α := ⟨[], List.Pairwise.nil⟩

instance : EmptyCollection (SortedMap κ α) := ⟨empty⟩

instance : Inhabited (SortedMap κ α) := ⟨empty⟩

def get? (m : SortedMap κ α) (k : κ) : Option α := lookup k m.entries

def contains (m : SortedMap κ α) (k : κ) : Bool := (m.get? k).isSome

def alter [TransOrd κ] (m : SortedMap κ α) (k : κ) (f : Option α → Option α) : SortedMap κ α :=
  ⟨alterEntries k f m.entries, ascending_alterEntries k f m.ascending⟩

def insert [TransOrd κ] (m : SortedMap κ α) (k : κ) (v : α) : SortedMap κ α :=
  m.alter k fun _ => some v

/-- Gives `k` the value `v` unless it has one. -/
def insertIfNew [TransOrd κ] (m : SortedMap κ α) (k : κ) (v : α) : SortedMap κ α :=
  m.alter k fun old => some (old.getD v)

def erase [TransOrd κ] (m : SortedMap κ α) (k : κ) : SortedMap κ α :=
  m.alter k fun _ => none

def keys (m : SortedMap κ α) : List κ := m.entries.map (·.1)

def values (m : SortedMap κ α) : List α := m.entries.map (·.2)

def size (m : SortedMap κ α) : Nat := m.entries.length

def isEmpty (m : SortedMap κ α) : Bool := m.entries.isEmpty

/-- Enters pairs one after the other: the last value of a repeated key stays. -/
def ofList [TransOrd κ] (pairs : List (κ × α)) : SortedMap κ α :=
  pairs.foldl (fun m e => m.insert e.1 e.2) empty

/-- The entries of `m` and those of `other` under keys that `m` lacks. -/
def orElse [TransOrd κ] (m other : SortedMap κ α) : SortedMap κ α :=
  other.entries.foldl (fun m e => m.insertIfNew e.1 e.2) m

def filterMap (f : κ → α → Option β) (m : SortedMap κ α) : SortedMap κ β where
  entries := m.entries.filterMap fun e => (f e.1 e.2).map (e.1, ·)
  ascending := by
    refine List.Pairwise.filterMap _ ?_ m.ascending
    intro a a' haa' b hb b' hb'
    simp only [Option.map_eq_some_iff] at hb hb'
    obtain ⟨_, _, rfl⟩ := hb
    obtain ⟨_, _, rfl⟩ := hb'
    exact haa'

/-! ### Look-ups after updates -/

theorem lookup_eq_none_of_lt [TransOrd κ] {k : κ} {l : List (κ × α)}
    (h : ∀ e ∈ l, compare k e.1 = .lt) : lookup k l = none := by
  induction l with
  | nil => rfl
  | cons head rest ih =>
    obtain ⟨k', v'⟩ := head
    have hk := h (k', v') (by simp)
    simp_all [lookup]

theorem lookup_alterEntries [TransOrd κ] [LawfulEqOrd κ] [DecidableEq κ] (k k' : κ)
    (f : Option α → Option α) {l : List (κ × α)} (h : AscendingKeys l) :
    lookup k' (alterEntries k f l) = if k' = k then f (lookup k l) else lookup k' l := by
  induction l with
  | nil => cases hf : f none <;> by_cases hk : k' = k <;> simp_all [alterEntries, lookup]
  | cons head rest ih =>
    obtain ⟨a, v⟩ := head
    have hrest : AscendingKeys rest := h.of_cons
    have hhead : ∀ e ∈ rest, compare a e.1 = .lt := fun e he => List.rel_of_pairwise_cons h he
    have ih := ih hrest
    simp only [alterEntries]
    split
    · next hlt =>
      have hnone : lookup k rest = none :=
        lookup_eq_none_of_lt fun e he => TransCmp.lt_trans hlt (hhead e he)
      have hka : k ≠ a := by rintro rfl; simp at hlt
      cases hf : f none <;> by_cases hk : k' = k <;> simp_all [lookup]
    · next heq =>
      have hka : k = a := LawfulEqOrd.eq_of_compare heq
      subst hka
      have hnone : lookup k rest = none := lookup_eq_none_of_lt hhead
      cases hf : f (some v) <;> by_cases hk : k' = k <;> simp_all [lookup]
    · next hgt =>
      have hka : k ≠ a := by rintro rfl; simp at hgt
      by_cases hk : k' = k
      · subst hk; simp_all [lookup]
      · by_cases hka' : k' = a <;> simp_all [lookup]

theorem get?_alter [TransOrd κ] [LawfulEqOrd κ] [DecidableEq κ] (m : SortedMap κ α) (k k' : κ)
    (f : Option α → Option α) :
    (m.alter k f).get? k' = if k' = k then f (m.get? k) else m.get? k' :=
  lookup_alterEntries k k' f m.ascending

@[simp] theorem get?_empty (k : κ) : (empty : SortedMap κ α).get? k = none := rfl

theorem get?_insert [TransOrd κ] [LawfulEqOrd κ] [DecidableEq κ] (m : SortedMap κ α) (k k' : κ)
    (v : α) :
    (m.insert k v).get? k' = if k' = k then some v else m.get? k' :=
  get?_alter m k k' _

theorem get?_insertIfNew [TransOrd κ] [LawfulEqOrd κ] [DecidableEq κ] (m : SortedMap κ α)
    (k k' : κ) (v : α) :
    (m.insertIfNew k v).get? k' = if k' = k then some ((m.get? k).getD v) else m.get? k' :=
  get?_alter m k k' _

theorem get?_erase [TransOrd κ] [LawfulEqOrd κ] [DecidableEq κ] (m : SortedMap κ α) (k k' : κ) :
    (m.erase k).get? k' = if k' = k then none else m.get? k' :=
  get?_alter m k k' _

theorem lookup_eq_some_iff [TransOrd κ] [LawfulEqOrd κ] {k : κ} {v : α} {l : List (κ × α)}
    (h : AscendingKeys l) : lookup k l = some v ↔ (k, v) ∈ l := by
  induction l with
  | nil => simp [lookup]
  | cons head rest ih =>
    obtain ⟨a, w⟩ := head
    have hrest : AscendingKeys rest := h.of_cons
    have hhead : ∀ e ∈ rest, compare a e.1 = .lt := fun e he => List.rel_of_pairwise_cons h he
    by_cases hk : k = a
    · subst hk
      have hmem : (k, v) ∉ rest := fun he => by simpa using hhead _ he
      simp [lookup, hmem, eq_comm]
    · have hc : compare k a ≠ .eq := fun hc => hk (LawfulEqOrd.eq_of_compare hc)
      simp [lookup, hc, hk, ih hrest]

theorem get?_eq_some_iff [TransOrd κ] [LawfulEqOrd κ] {m : SortedMap κ α} {k : κ} {v : α} :
    m.get? k = some v ↔ (k, v) ∈ m.entries :=
  lookup_eq_some_iff m.ascending

theorem get?_filterMap [TransOrd κ] [LawfulEqOrd κ] (m : SortedMap κ α) (f : κ → α → Option β)
    (k : κ) : (m.filterMap f).get? k = (m.get? k).bind (f k) := by
  ext v
  rw [get?_eq_some_iff, Option.bind_eq_some_iff, filterMap, List.mem_filterMap]
  constructor
  · rintro ⟨⟨k', a⟩, he, hf⟩
    obtain ⟨w, hw, hpair⟩ := Option.map_eq_some_iff.1 hf
    cases hpair
    exact ⟨a, get?_eq_some_iff.2 he, hw⟩
  · rintro ⟨a, ha, hf⟩
    exact ⟨(k, a), get?_eq_some_iff.1 ha, Option.map_eq_some_iff.2 ⟨v, hf, rfl⟩⟩

theorem eq_of_mem_iff [TransOrd κ] {l l' : List (κ × α)} (h : AscendingKeys l)
    (h' : AscendingKeys l') (hmem : ∀ e, e ∈ l ↔ e ∈ l') : l = l' := by
  induction l generalizing l' with
  | nil =>
    cases l' with
    | nil => rfl
    | cons head rest => exact absurd ((hmem head).2 (by simp)) (by simp)
  | cons head rest ih =>
    cases l' with
    | nil => exact absurd ((hmem head).1 (by simp)) (by simp)
    | cons head' rest' =>
      have hrest := h.of_cons
      have hrest' := h'.of_cons
      have hhead : ∀ e ∈ rest, compare head.1 e.1 = .lt :=
        fun e he => List.rel_of_pairwise_cons h he
      have hhead' : ∀ e ∈ rest', compare head'.1 e.1 = .lt :=
        fun e he => List.rel_of_pairwise_cons h' he
      have hirr : ∀ e : κ × α, compare e.1 e.1 ≠ .lt := fun e he => by simp at he
      have heq : head = head' := by
        rcases List.mem_cons.1 ((hmem head).1 (by simp)) with e | e
        · exact e
        rcases List.mem_cons.1 ((hmem head').2 (by simp)) with e' | e'
        · exact e'.symm
        exact absurd (TransCmp.lt_trans (hhead' _ e) (hhead _ e')) (hirr _)
      subst heq
      congr 1
      refine ih hrest hrest' fun e => ⟨fun he => ?_, fun he => ?_⟩
      · rcases List.mem_cons.1 ((hmem e).1 (by simp [he])) with rfl | he'
        · exact absurd (hhead _ he) (hirr _)
        · exact he'
      · rcases List.mem_cons.1 ((hmem e).2 (by simp [he])) with rfl | he'
        · exact absurd (hhead' _ he) (hirr _)
        · exact he'

theorem ext_get? [TransOrd κ] [LawfulEqOrd κ] {m m' : SortedMap κ α}
    (h : ∀ k, m.get? k = m'.get? k) : m = m' := by
  have hentries : m.entries = m'.entries :=
    eq_of_mem_iff m.ascending m'.ascending fun e => by
      rw [← get?_eq_some_iff (m := m), ← get?_eq_some_iff (m := m'), h e.1]
  cases m; cases m'; simp_all

instance [DecidableEq κ] [DecidableEq α] : DecidableEq (SortedMap κ α) := fun m m' =>
  decidable_of_iff (m.entries = m'.entries)
    ⟨fun h => by cases m; cases m'; simp_all, fun h => by rw [h]⟩

theorem distinct_keys [TransOrd κ] (m : SortedMap κ α) :
    m.entries.Pairwise fun e e' => e.1 ≠ e'.1 := by
  apply m.ascending.imp
  intro e e' ascends same
  rw [same] at ascends
  simp at ascends

end SortedMap

end RoutingPolicy

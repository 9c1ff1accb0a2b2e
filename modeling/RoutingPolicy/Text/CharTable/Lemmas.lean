import RoutingPolicy.Text.CharTable

/-!
# Sets of characters as ranges: the laws

What the operations on tables hold is what their names say: `contains_union` and `contains_compl`
tie them to `or` and `not`, for tables in normal form, and their results are in normal form again.
-/

set_option autoImplicit false

namespace RoutingPolicy.Text.CharTable

/-- The ranges are not empty, and each begins behind the one before it, with a gap between them. -/
structure IsNormal (table : CharTable) : Prop where
  nonempty : ∀ range ∈ table, range.1 ≤ range.2
  /-- The ranges ascend and do not touch. -/
  apart : table.Pairwise fun a b => a.2 + 1 < b.1

structure Ascends (table : CharTable) : Prop where
  nonempty : ∀ range ∈ table, range.1 ≤ range.2
  beginnings : table.Pairwise fun a b => a.1 ≤ b.1

theorem IsNormal.ascends {table : CharTable} (h : table.IsNormal) : table.Ascends where
  nonempty := h.nonempty
  beginnings := by
    have before := h.apart
    refine List.Pairwise.imp_of_mem (fun ha _ apart => ?_) before
    have := h.nonempty _ ha
    omega

theorem holds_iff {table : CharTable} {code : Nat} :
    table.holds code = true ↔ ∃ range ∈ table, range.1 ≤ code ∧ code ≤ range.2 := by
  simp [holds]

theorem IsNormal.tail {range : Nat × Nat} {table : CharTable} (h : IsNormal (range :: table)) :
    IsNormal table where
  nonempty r member := h.nonempty r (List.mem_cons_of_mem _ member)
  apart := (List.pairwise_cons.1 h.apart).2

theorem Ascends.tail {range : Nat × Nat} {table : CharTable} (h : Ascends (range :: table)) :
    Ascends table where
  nonempty r member := h.nonempty r (List.mem_cons_of_mem _ member)
  beginnings := (List.pairwise_cons.1 h.beginnings).2

/-- A range may take in the one behind it. -/
theorem Ascends.join {current range : Nat × Nat} {table : CharTable}
    (h : Ascends (current :: range :: table)) :
    Ascends ((current.1, max current.2 range.2) :: table) := by
  obtain ⟨fromCurrent, fromRange⟩ := List.pairwise_cons.1 h.beginnings
  constructor
  · intro r member
    rcases List.mem_cons.1 member with rfl | member
    · exact Nat.le_trans (h.nonempty current (by simp)) (Nat.le_max_left _ _)
    · exact h.nonempty r (by simp [member])
  · exact List.pairwise_cons.2
      ⟨fun r member => fromCurrent r (by simp [member]), (List.pairwise_cons.1 fromRange).2⟩

theorem holds_joinFrom {current : Nat × Nat} {table : CharTable}
    (h : Ascends (current :: table)) (code : Nat) :
    (joinFrom current table).holds code = holds (current :: table) code := by
  induction table generalizing current with
  | nil => rfl
  | cons range rest induction =>
    have first := h.nonempty current (by simp)
    have second := h.nonempty range (by simp)
    have later := (List.pairwise_cons.1 h.beginnings).1 range (by simp)
    rw [joinFrom]
    split
    · next touches =>
      rw [induction h.join, Bool.eq_iff_iff, holds_iff, holds_iff]
      simp only [List.mem_cons, exists_eq_or_imp]
      constructor
      · rintro (⟨low, high⟩ | other)
        · rcases Nat.lt_or_ge current.2 code with past | within
          · exact Or.inr (Or.inl ⟨by omega, by omega⟩)
          · exact Or.inl ⟨low, within⟩
        · exact Or.inr (Or.inr other)
      · rintro (⟨low, high⟩ | ⟨low, high⟩ | other)
        · exact Or.inl ⟨low, by omega⟩
        · exact Or.inl ⟨by omega, by omega⟩
        · exact Or.inr other
    · rw [holds, List.any_cons, ← holds, induction h.tail]
      rfl

theorem le_of_mem_joinFrom {low : Nat} {current range : Nat × Nat} {table : CharTable}
    (first : low ≤ current.1) (others : ∀ r ∈ table, low ≤ r.1)
    (member : range ∈ joinFrom current table) : low ≤ range.1 := by
  induction table generalizing current with
  | nil =>
    rw [joinFrom, List.mem_singleton] at member
    exact member ▸ first
  | cons next rest induction =>
    have later : ∀ r ∈ rest, low ≤ r.1 := fun r inRest => others r (by simp [inRest])
    rw [joinFrom] at member
    split at member
    · refine induction ?_ later member
      exact first
    · rcases List.mem_cons.1 member with rfl | member
      · exact first
      · exact induction (others next (by simp)) later member

theorem isNormal_joinFrom {current : Nat × Nat} {table : CharTable}
    (h : Ascends (current :: table)) : (joinFrom current table).IsNormal := by
  induction table generalizing current with
  | nil => exact ⟨h.nonempty, List.pairwise_singleton _ _⟩
  | cons next rest induction =>
    rw [joinFrom]
    split
    · exact induction h.join
    · have tail := induction h.tail
      constructor
      · intro r member
        rcases List.mem_cons.1 member with rfl | member
        · exact h.nonempty r (by simp)
        · exact tail.nonempty r member
      · refine List.pairwise_cons.2 ⟨fun r member => ?_, tail.apart⟩
        have := le_of_mem_joinFrom (Nat.le_refl _) (List.pairwise_cons.1 h.tail.beginnings).1 member
        omega

theorem isNormal_joined {table : CharTable} (h : table.Ascends) : table.joined.IsNormal := by
  cases table with
  | nil => exact ⟨h.nonempty, List.Pairwise.nil⟩
  | cons range rest => exact isNormal_joinFrom h

theorem holds_joined {table : CharTable} (h : table.Ascends) (code : Nat) :
    table.joined.holds code = table.holds code := by
  cases table with
  | nil => rfl
  | cons range rest => exact holds_joinFrom h code

theorem ascends_mergeSort (table : CharTable) :
    Ascends ((table.filter fun range => range.1 ≤ range.2).mergeSort beginsBy) where
  nonempty := fun range member => by
    simpa using (List.mem_filter.1 (List.mem_mergeSort.1 member)).2
  beginnings := by
    have sorted : ((table.filter fun range => range.1 ≤ range.2).mergeSort beginsBy).Pairwise
        fun range next => beginsBy range next = true :=
      List.pairwise_mergeSort (by simp [beginsBy]; omega) (by simp [beginsBy]; omega) _
    exact sorted.imp (by simp [beginsBy])

theorem isNormal_normal (table : CharTable) : table.normal.IsNormal :=
  isNormal_joined (ascends_mergeSort table)

theorem holds_normal (table : CharTable) (code : Nat) :
    table.normal.holds code = table.holds code := by
  rw [normal, holds_joined (ascends_mergeSort table), Bool.eq_iff_iff, holds_iff, holds_iff]
  constructor
  · rintro ⟨range, member, bounds⟩
    exact ⟨range, (List.mem_filter.1 (List.mem_mergeSort.1 member)).1, bounds⟩
  · rintro ⟨range, member, bounds⟩
    refine ⟨range, List.mem_mergeSort.2 (List.mem_filter.2 ⟨member, ?_⟩), bounds⟩
    simpa using Nat.le_trans bounds.1 bounds.2

theorem ascends_merge {a b : CharTable} (ha : a.IsNormal) (hb : b.IsNormal) :
    Ascends (List.merge a b beginsBy) where
  nonempty := fun range member => (List.mem_merge.1 member).elim (ha.nonempty _) (hb.nonempty _)
  beginnings := by
    have sorted : (List.merge a b beginsBy).Pairwise fun r s => beginsBy r s :=
      List.pairwise_merge (by simp [beginsBy]; omega) (by simp [beginsBy]; omega) a b
        (ha.ascends.beginnings.imp (by simp [beginsBy]))
        (hb.ascends.beginnings.imp (by simp [beginsBy]))
    exact sorted.imp (by simp [beginsBy])

theorem isNormal_union {a b : CharTable} (ha : a.IsNormal) (hb : b.IsNormal) :
    (a.union b).IsNormal := isNormal_joined (ascends_merge ha hb)

theorem holds_union {a b : CharTable} (ha : a.IsNormal) (hb : b.IsNormal) (code : Nat) :
    (a.union b).holds code = (a.holds code || b.holds code) := by
  rw [union, holds_joined (ascends_merge ha hb), Bool.eq_iff_iff, Bool.or_eq_true, holds_iff,
    holds_iff, holds_iff]
  constructor
  · rintro ⟨range, member, bounds⟩
    exact (List.mem_merge.1 member).imp (fun inA => ⟨range, inA, bounds⟩)
      (fun inB => ⟨range, inB, bounds⟩)
  · rintro (⟨range, inA, bounds⟩ | ⟨range, inB, bounds⟩)
    · exact ⟨range, List.mem_merge.2 (Or.inl inA), bounds⟩
    · exact ⟨range, List.mem_merge.2 (Or.inr inB), bounds⟩

theorem holds_cons (range : Nat × Nat) (table : CharTable) (code : Nat) :
    holds (range :: table) code =
      ((decide (range.1 ≤ code) && decide (code ≤ range.2)) || holds table code) := rfl

theorem holds_eq_false {table : CharTable} {code : Nat}
    (behind : ∀ range ∈ table, code < range.1) : table.holds code = false := by
  rw [Bool.eq_false_iff]
  intro held
  obtain ⟨range, member, low, _⟩ := holds_iff.1 held
  exact absurd low (Nat.not_le.2 (behind range member))

theorem holds_gaps_cons_iff {first code : Nat} {range : Nat × Nat} {table : CharTable} :
    (gaps first (range :: table)).holds code = true ↔
      first ≤ code ∧ code < range.1 ∨ (gaps (range.2 + 1) table).holds code = true := by
  rw [gaps]
  split
  · rw [holds_cons, Bool.or_eq_true, Bool.and_eq_true, decide_eq_true_iff, decide_eq_true_iff]
    refine or_congr_left ?_
    omega
  · constructor
    · exact .inr
    · rintro (⟨low, high⟩ | held)
      · omega
      · exact held

/-- The gaps hold what the table does not, from the first code point on. -/
theorem holds_gaps_iff {first code : Nat} {table : CharTable} (h : table.IsNormal)
    (behind : ∀ range ∈ table, first ≤ range.1) (valid : code ≤ lastCode) :
    (gaps first table).holds code = true ↔ first ≤ code ∧ table.holds code = false := by
  induction table generalizing first with
  | nil =>
    rw [gaps]
    split
    · simp [holds, valid]
    · simp only [holds, List.any_nil, Bool.false_eq_true, and_true, false_iff]
      omega
  | cons range rest induction =>
    have within := h.nonempty range (by simp)
    have gap := (List.pairwise_cons.1 h.apart).1
    have start := behind range (by simp)
    have tail : (gaps (range.2 + 1) rest).holds code = true ↔
        range.2 + 1 ≤ code ∧ holds rest code = false :=
      induction h.tail fun r member => Nat.le_of_lt (gap r member)
    rw [holds_gaps_cons_iff, tail, holds_cons, Bool.or_eq_false_iff, Bool.and_eq_false_iff,
      decide_eq_false_iff_not, decide_eq_false_iff_not]
    rcases Nat.lt_or_ge range.2 code with past | before
    · constructor
      · rintro (⟨low, high⟩ | ⟨low, unheld⟩)
        · omega
        · exact ⟨by omega, .inr (by omega), unheld⟩
      · rintro ⟨low, -, unheld⟩
        exact .inr ⟨past, unheld⟩
    · have unheld : holds rest code = false := holds_eq_false fun r member => by
        have := gap r member
        omega
      simp only [unheld, and_true]
      omega

theorem le_of_mem_gaps {low first : Nat} {table : CharTable} {range : Nat × Nat}
    (start : low ≤ first) (behind : ∀ r ∈ table, low ≤ r.2 + 1)
    (member : range ∈ gaps first table) : low ≤ range.1 := by
  induction table generalizing first with
  | nil =>
    rw [gaps] at member
    split at member
    · rw [List.mem_singleton.1 member]
      exact start
    · cases member
  | cons r rest induction =>
    have tail := induction (behind r (by simp)) fun q inRest => behind q (by simp [inRest])
    rw [gaps] at member
    split at member
    · rcases List.mem_cons.1 member with rfl | member
      · exact start
      · exact tail member
    · exact tail member

theorem isNormal_gaps (first : Nat) {table : CharTable} (h : table.IsNormal) :
    (gaps first table).IsNormal := by
  induction table generalizing first with
  | nil =>
    rw [gaps]
    split
    · next within =>
      exact ⟨fun r member => by rw [List.mem_singleton.1 member]; exact within,
        List.pairwise_singleton _ _⟩
    · exact ⟨nofun, List.Pairwise.nil⟩
  | cons range rest induction =>
    have within := h.nonempty range (by simp)
    have gap := (List.pairwise_cons.1 h.apart).1
    have tail := induction (range.2 + 1) h.tail
    rw [gaps]
    split
    · constructor
      · intro r member
        rcases List.mem_cons.1 member with rfl | member
        · simp only
          omega
        · exact tail.nonempty r member
      · refine List.pairwise_cons.2 ⟨fun r member => ?_, tail.apart⟩
        have later := le_of_mem_gaps (Nat.le_refl _) (fun q inRest => by
          have := gap q inRest
          have := h.nonempty q (by simp [inRest])
          omega) member
        simp only
        omega
    · exact tail

theorem isNormal_surrogates : surrogates.IsNormal :=
  ⟨by decide, List.pairwise_singleton _ _⟩

theorem isNormal_compl {table : CharTable} (h : table.IsNormal) : table.compl.IsNormal :=
  isNormal_gaps 0 (isNormal_union h isNormal_surrogates)

theorem isNormal_inter {a b : CharTable} (ha : a.IsNormal) (hb : b.IsNormal) :
    (a.inter b).IsNormal :=
  isNormal_compl (isNormal_union (isNormal_compl ha) (isNormal_compl hb))

theorem contains_union {a b : CharTable} (ha : a.IsNormal) (hb : b.IsNormal) (c : Char) :
    (a.union b).contains c = (a.contains c || b.contains c) := holds_union ha hb c.toNat

theorem holds_surrogates (c : Char) : surrogates.holds c.toNat = false := by
  have valid : c.toNat < 0xd800 ∨ 0xdfff < c.toNat ∧ c.toNat < 0x110000 := c.valid
  simp only [surrogates, holds, List.any_cons, List.any_nil, Bool.or_false, Bool.and_eq_false_iff,
    decide_eq_false_iff_not]
  omega

/-- A table and its complement share no character and leave none out. -/
theorem contains_compl {table : CharTable} (h : table.IsNormal) (c : Char) :
    table.compl.contains c = !table.contains c := by
  have valid : c.toNat < 0xd800 ∨ 0xdfff < c.toNat ∧ c.toNat < 0x110000 := c.valid
  rw [Bool.eq_iff_iff, contains, compl, holds_gaps_iff (isNormal_union h isNormal_surrogates)
    (fun _ _ => Nat.zero_le _) (by unfold lastCode; omega), holds_union h isNormal_surrogates,
    holds_surrogates]
  simp [contains]

theorem contains_inter {a b : CharTable} (ha : a.IsNormal) (hb : b.IsNormal) (c : Char) :
    (a.inter b).contains c = (a.contains c && b.contains c) := by
  rw [inter, contains_compl (isNormal_union (isNormal_compl ha) (isNormal_compl hb)),
    contains_union (isNormal_compl ha) (isNormal_compl hb), contains_compl ha, contains_compl hb]
  simp

end RoutingPolicy.Text.CharTable

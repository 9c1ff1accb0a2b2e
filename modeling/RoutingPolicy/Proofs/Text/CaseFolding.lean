import Mathlib.Data.List.Chain
import Mathlib.Data.List.Pairwise
import RoutingPolicy.Text.CaseOrbit
import RoutingPolicy.Text.CharTable.Lemmas

/-!
# What case folding adds to a table

The runs of the folding do not overlap, and no run holds what another one folds to. So a code point
folds to one representative only, and folding it again changes nothing. That is what the folded
table needs to hold the characters of which an orbit has a member in the table.
-/

set_option autoImplicit false

namespace RoutingPolicy.Text

namespace FoldRun

def stop (r : FoldRun) : Nat := r.start + (r.count - 1) * r.stride + 1

def target (r : FoldRun) (n : Nat) : Nat := (Int.ofNat n + r.shift).toNat

/-- What the code points of a run fold to, as a run that folds to itself. -/
def image (r : FoldRun) : FoldRun := ⟨r.target r.start, r.count, r.stride, 0⟩

def alternates (r : FoldRun) : Bool := r.count == 1 || r.stride == 2

/-- One of two runs ends before the other begins, or they take turns. -/
def isApart (r s : FoldRun) : Bool :=
  r.stop.ble s.start || s.stop.ble r.start ||
    (r.alternates && s.alternates && (r.start + s.start) % 2 == 1)

/-- The run lists code points of characters, at distances above 0, and folds them to characters. -/
structure IsSound (r : FoldRun) : Prop where
  stride_pos : 0 < r.stride
  count_pos : 0 < r.count
  image_start : Int.ofNat r.start + r.shift = Int.ofNat r.image.start
  valid : r.stop ≤ 0xd800 ∨ 0xe000 ≤ r.start ∧ r.stop ≤ 0x110000
  image_valid : r.image.stop ≤ 0xd800 ∨ 0xe000 ≤ r.image.start ∧ r.image.stop ≤ 0x110000

theorem target_image (r : FoldRun) (n : Nat) : r.image.target n = n := by simp [target, image]

theorem image_image (r : FoldRun) : r.image.image = r.image := by
  rw [image, target_image]
  rfl

theorem IsSound.image {r : FoldRun} (h : r.IsSound) : r.image.IsSound where
  stride_pos := h.stride_pos
  count_pos := h.count_pos
  image_start := by rw [image_image]; exact Int.add_zero _
  valid := h.image_valid
  image_valid := by rw [image_image]; exact h.image_valid

theorem contains_iff {r : FoldRun} (positive : 0 < r.stride) {n : Nat} :
    r.contains n = true ↔ ∃ i < r.count, n = r.start + i * r.stride := by
  simp only [contains, Bool.and_eq_true, decide_eq_true_eq, beq_iff_eq]
  constructor
  · rintro ⟨⟨low, high⟩, divides⟩
    obtain ⟨i, distance⟩ := Nat.dvd_of_mod_eq_zero divides
    rw [Nat.mul_comm] at distance
    have within : i * r.stride < r.count * r.stride := by omega
    exact ⟨i, Nat.lt_of_mul_lt_mul_right within, by omega⟩
  · rintro ⟨i, within, rfl⟩
    have below := Nat.mul_lt_mul_of_pos_right within positive
    exact ⟨⟨Nat.le_add_right _ _, by omega⟩, by simp⟩

theorem bounds_of_contains {r : FoldRun} (h : r.IsSound) {n : Nat}
    (listed : r.contains n = true) : r.start ≤ n ∧ n < r.stop := by
  obtain ⟨i, within, rfl⟩ := (contains_iff h.stride_pos).1 listed
  have := Nat.mul_le_mul_right r.stride (Nat.le_sub_one_of_lt within)
  unfold stop
  omega

theorem target_of_contains {r : FoldRun} (h : r.IsSound) {n : Nat}
    (listed : r.contains n = true) : Int.ofNat n + r.shift = Int.ofNat (r.target n) := by
  have low := (bounds_of_contains h listed).1
  have start : (r.start : Int) + r.shift = (r.image.start : Int) := h.image_start
  show (n : Int) + r.shift = (((n : Int) + r.shift).toNat : Int)
  omega

theorem image_contains {r : FoldRun} (h : r.IsSound) {n : Nat} (listed : r.contains n = true) :
    r.image.contains (r.target n) = true := by
  have moved := target_of_contains h listed
  obtain ⟨i, within, rfl⟩ := (contains_iff h.stride_pos).1 listed
  have start : (r.start : Int) + r.shift = (r.image.start : Int) := h.image_start
  refine (contains_iff (r := r.image) h.stride_pos).2 ⟨i, within, ?_⟩
  have shifted : ((r.start + i * r.stride : Nat) : Int) + r.shift =
      (r.target (r.start + i * r.stride) : Int) := moved
  show r.target (r.start + i * r.stride) = r.image.start + i * r.stride
  omega

theorem parity_of_contains {r : FoldRun} (positive : 0 < r.stride)
    (alternates : r.alternates = true) {n : Nat} (listed : r.contains n = true) :
    n % 2 = r.start % 2 := by
  obtain ⟨i, within, rfl⟩ := (contains_iff positive).1 listed
  rcases Bool.or_eq_true_iff.1 alternates with one | two
  · have : i = 0 := by have := beq_iff_eq.1 one; omega
    rw [this, Nat.zero_mul, Nat.add_zero]
  · rw [beq_iff_eq.1 two]
    omega

theorem not_contains_of_isApart {r s : FoldRun} (hr : r.IsSound) (hs : s.IsSound)
    (apart : r.isApart s = true) {n : Nat} (listed : r.contains n = true) :
    s.contains n = false := by
  rw [Bool.eq_false_iff]
  intro other
  have inR := bounds_of_contains hr listed
  have inS := bounds_of_contains hs other
  simp only [isApart, Bool.or_eq_true, Bool.and_eq_true, Nat.ble_eq, beq_iff_eq] at apart
  rcases apart with (before | behind) | ⟨⟨turnsR, turnsS⟩, odd⟩
  · omega
  · omega
  · have := parity_of_contains hr.stride_pos turnsR listed
    have := parity_of_contains hs.stride_pos turnsS other
    omega

instance (r : FoldRun) : Decidable r.IsSound :=
  decidable_of_iff
    (0 < r.stride ∧ 0 < r.count ∧ Int.ofNat r.start + r.shift = Int.ofNat r.image.start ∧
      (r.stop ≤ 0xd800 ∨ 0xe000 ≤ r.start ∧ r.stop ≤ 0x110000) ∧
      (r.image.stop ≤ 0xd800 ∨ 0xe000 ≤ r.image.start ∧ r.image.stop ≤ 0x110000))
    ⟨fun ⟨a, b, c, d, e⟩ => ⟨a, b, c, d, e⟩, fun ⟨a, b, c, d, e⟩ => ⟨a, b, c, d, e⟩⟩

end FoldRun

theorem foldRuns_sound : ∀ r ∈ foldRuns, r.IsSound := by decide +kernel

theorem foldRuns_ascend : foldRuns.Pairwise fun r s => r.stop ≤ s.start := by
  have neighbours : foldRuns.IsChain fun r s => r.stop ≤ s.start := by decide +kernel
  have : IsTrans FoldRun fun r s => r.stop ≤ s.start :=
    ⟨fun r s t before after => by unfold FoldRun.stop at *; omega⟩
  exact List.isChain_iff_pairwise.1 neighbours

theorem eq_of_contains {r s : FoldRun} (hr : r ∈ foldRuns) (hs : s ∈ foldRuns) {n : Nat}
    (inR : r.contains n = true) (inS : s.contains n = true) : r = s := by
  have : Std.Symm fun r s : FoldRun => r.contains n = true → s.contains n = true → r = s :=
    ⟨fun r s same inS inR => (same inR inS).symm⟩
  have apart : foldRuns.Pairwise fun r s => r.contains n = true → s.contains n = true → r = s := by
    refine foldRuns_ascend.imp_of_mem fun hr hs before inR inS => ?_
    have := FoldRun.bounds_of_contains (foldRuns_sound _ hr) inR
    have := FoldRun.bounds_of_contains (foldRuns_sound _ hs) inS
    omega
  exact apart.forall_of_forall (fun _ _ _ _ => rfl) hr hs inR inS

theorem images_apart : ∀ r ∈ foldRuns, ∀ s ∈ foldRuns, r.image.isApart s = true := by
  have all : (foldRuns.all fun r => foldRuns.all fun s => r.image.isApart s) = true := by
    decide +kernel
  simpa using all

theorem mem_foldPairs_iff {n code : Nat} :
    (n, code) ∈ foldPairs ↔ ∃ r ∈ foldRuns, r.contains n = true ∧ r.target n = code := by
  simp only [foldPairs, FoldRun.pairs, List.mem_flatMap, List.mem_map, List.mem_range,
    Prod.mk.injEq]
  constructor
  · rintro ⟨r, member, i, within, rfl, rfl⟩
    exact ⟨r, member,
      (FoldRun.contains_iff (foldRuns_sound r member).stride_pos).2 ⟨i, within, rfl⟩, rfl⟩
  · rintro ⟨r, member, listed, rfl⟩
    obtain ⟨i, within, rfl⟩ :=
      (FoldRun.contains_iff (foldRuns_sound r member).stride_pos).1 listed
    exact ⟨r, member, i, within, rfl, rfl⟩

theorem foldedCode_of_contains {r : FoldRun} (member : r ∈ foldRuns) {c : Char}
    (listed : r.contains c.toNat = true) : foldedCode c = r.target c.toNat := by
  unfold foldedCode
  split
  · next none => exact absurd listed (by simpa using List.find?_eq_none.1 none r member)
  · next s found =>
    rw [eq_of_contains member (List.mem_of_find?_eq_some found) listed
      (by simpa using List.find?_some found)]
    rfl

theorem foldedCode_eq_or (c : Char) :
    foldedCode c = c.toNat ∨ (c.toNat, foldedCode c) ∈ foldPairs := by
  by_cases listed : ∃ r ∈ foldRuns, r.contains c.toNat = true
  · obtain ⟨r, member, contains⟩ := listed
    exact Or.inr (mem_foldPairs_iff.2
      ⟨r, member, contains, (foldedCode_of_contains member contains).symm⟩)
  · have none : foldRuns.find? (·.contains c.toNat) = none :=
      List.find?_eq_none.2 fun r member contains => listed ⟨r, member, contains⟩
    exact Or.inl (by rw [foldedCode, none])

theorem foldedCode_of_mem {c : Char} {code : Nat} (pair : (c.toNat, code) ∈ foldPairs) :
    foldedCode c = code := by
  obtain ⟨r, member, contains, rfl⟩ := mem_foldPairs_iff.1 pair
  exact foldedCode_of_contains member contains

theorem foldedCode_of_representative {c : Char} {n : Nat} (pair : (n, c.toNat) ∈ foldPairs) :
    foldedCode c = c.toNat := by
  obtain ⟨r, member, contains, same⟩ := mem_foldPairs_iff.1 pair
  rcases foldedCode_eq_or c with unchanged | moved
  · exact unchanged
  · obtain ⟨s, other, listed, _⟩ := mem_foldPairs_iff.1 moved
    have imaged := FoldRun.image_contains (foldRuns_sound r member) contains
    have := FoldRun.not_contains_of_isApart (foldRuns_sound r member).image
      (foldRuns_sound s other) (images_apart r member s other) imaged
    rw [same, listed] at this
    cases this

theorem exists_char_of_valid {n : Nat} (valid : n < 0xd800 ∨ 0xe000 ≤ n ∧ n < 0x110000) :
    ∃ c : Char, c.toNat = n :=
  ⟨Char.ofNatAux n (by unfold Nat.isValidChar; omega), rfl⟩

theorem exists_chars_of_mem {n code : Nat} (pair : (n, code) ∈ foldPairs) :
    (∃ c : Char, c.toNat = n) ∧ ∃ c : Char, c.toNat = code := by
  obtain ⟨r, member, contains, rfl⟩ := mem_foldPairs_iff.1 pair
  have sound := foldRuns_sound r member
  have bounds := FoldRun.bounds_of_contains sound contains
  have imaged := FoldRun.bounds_of_contains sound.image (FoldRun.image_contains sound contains)
  exact ⟨exists_char_of_valid (by have := sound.valid; omega),
    exists_char_of_valid (by have := sound.image_valid; omega)⟩

theorem exists_char_foldedCode (c : Char) : ∃ d : Char, d.toNat = foldedCode c :=
  (foldedCode_eq_or c).elim (fun unchanged => ⟨c, unchanged.symm⟩)
    fun pair => (exists_chars_of_mem pair).2

theorem mem_caseOrbit_iff_mem_foldPairs {c d : Char} :
    d ∈ caseOrbit c ↔ d.toNat = foldedCode c ∨ (d.toNat, foldedCode c) ∈ foldPairs := by
  obtain ⟨representative, code⟩ := exists_char_foldedCode c
  simp only [caseOrbit, List.mem_cons, List.mem_filterMap, ← code, Char.ofNat_toNat]
  refine or_congr ⟨fun same => same ▸ rfl, fun same => Char.toNat_inj.1 same⟩ ?_
  rw [mem_foldPairs_iff]
  refine exists_congr fun r => and_congr_right fun member => ?_
  have sound := foldRuns_sound r member
  simp only [Option.ite_none_right_eq_some, Bool.and_eq_true, beq_iff_eq, Option.some.injEq]
  constructor
  · rintro ⟨⟨contains, back⟩, rfl⟩
    obtain ⟨d, origin⟩ := (exists_chars_of_mem (mem_foldPairs_iff.2 ⟨r, member, contains, rfl⟩)).1
    rw [← origin] at contains back ⊢
    rw [Char.ofNat_toNat]
    exact ⟨contains, Int.ofNat.inj ((FoldRun.target_of_contains sound contains).symm.trans back)⟩
  · rintro ⟨contains, same⟩
    have moved := FoldRun.target_of_contains sound contains
    rw [same] at moved
    have origin : (Int.ofNat representative.toNat - r.shift).toNat = d.toNat := by
      rw [← moved]
      simp
    rw [origin]
    exact ⟨⟨contains, moved⟩, Char.ofNat_toNat d⟩

/-- An orbit holds the characters with the same representative. -/
theorem mem_caseOrbit_iff {c d : Char} : d ∈ caseOrbit c ↔ foldedCode d = foldedCode c := by
  rw [mem_caseOrbit_iff_mem_foldPairs]
  constructor
  · rintro (same | pair)
    · rcases foldedCode_eq_or c with unchanged | moved
      · rw [Char.toNat_inj.1 (same.trans unchanged)]
      · rw [← same] at moved
        rw [foldedCode_of_representative moved, same]
    · exact foldedCode_of_mem pair
  · intro same
    rw [← same]
    exact (foldedCode_eq_or d).imp Eq.symm id

theorem isNormal_folded {table : CharTable} (h : table.IsNormal) : table.folded.IsNormal :=
  CharTable.isNormal_union h (CharTable.isNormal_normal _)

theorem foldedCode_of_pair {c : Char} {n code : Nat} (pair : (n, code) ∈ foldPairs)
    (either : c.toNat = n ∨ c.toNat = code) : foldedCode c = code := by
  rcases either with rfl | rfl
  · exact foldedCode_of_mem pair
  · exact foldedCode_of_representative pair

/-- What folding adds: both sides of the pairs whose representative a pair shares that the table
meets. -/
def IsAdded (table : CharTable) (c : Char) : Prop :=
  ∃ code, (∃ n, (n, code) ∈ foldPairs ∧ (table.holds n = true ∨ table.holds code = true)) ∧
    ∃ n, (n, code) ∈ foldPairs ∧ (c.toNat = n ∨ c.toNat = code)

theorem contains_folded_iff {table : CharTable} (h : table.IsNormal) {c : Char} :
    table.folded.contains c = true ↔ table.contains c = true ∨ IsAdded table c := by
  rw [CharTable.folded, CharTable.contains_union h (CharTable.isNormal_normal _),
    Bool.or_eq_true]
  refine or_congr_right ?_
  rw [CharTable.contains, CharTable.holds_normal, CharTable.holds_iff]
  constructor
  · rintro ⟨range, member, low, high⟩
    simp only [List.mem_flatMap, List.mem_filter, List.contains_iff_mem, List.mem_map,
      Prod.exists, Bool.or_eq_true, List.mem_cons, List.not_mem_nil, or_false] at member
    obtain ⟨n, code, ⟨pair, m, _, ⟨other, met⟩, rfl⟩, here⟩ := member
    refine ⟨_, ⟨m, other, met⟩, n, pair, ?_⟩
    rcases here with rfl | rfl
    · exact Or.inl (Nat.le_antisymm high low)
    · exact Or.inr (Nat.le_antisymm high low)
  · rintro ⟨code, ⟨m, other, met⟩, n, pair, here⟩
    refine ⟨(c.toNat, c.toNat), ?_, Nat.le_refl _, Nat.le_refl _⟩
    simp only [List.mem_flatMap, List.mem_filter, List.contains_iff_mem, List.mem_map,
      Prod.exists, Bool.or_eq_true, List.mem_cons, List.not_mem_nil, or_false]
    refine ⟨n, code, ⟨pair, m, code, ⟨other, met⟩, rfl⟩, ?_⟩
    exact here.imp (fun same => by rw [same]) fun same => by rw [same]

/-- The folded table holds the characters of which the orbit meets the table. -/
theorem contains_folded {table : CharTable} (h : table.IsNormal) (c : Char) :
    table.folded.contains c = (caseOrbit c).any table.contains := by
  rw [Bool.eq_iff_iff, contains_folded_iff h, List.any_eq_true]
  simp only [mem_caseOrbit_iff]
  constructor
  · rintro (held | ⟨code, ⟨n, pair, met⟩, m, other, here⟩)
    · exact ⟨c, rfl, held⟩
    · obtain ⟨⟨d, rfl⟩, e, rfl⟩ := exists_chars_of_mem pair
      rw [foldedCode_of_pair other here]
      rcases met with held | held
      · exact ⟨d, foldedCode_of_mem pair, held⟩
      · exact ⟨e, foldedCode_of_representative pair, held⟩
  · rintro ⟨d, same, held⟩
    rcases foldedCode_eq_or c with unchanged | pair <;>
      rcases foldedCode_eq_or d with alike | other
    · have : d = c := Char.toNat_inj.1 (alike.symm.trans (same.trans unchanged))
      exact Or.inl (this ▸ held)
    · exact Or.inr ⟨_, ⟨_, other, Or.inl held⟩, _, other, Or.inr (unchanged.symm.trans same.symm)⟩
    · have represented : table.holds (foldedCode c) = true := by
        rw [← same, alike]
        exact held
      exact Or.inr ⟨_, ⟨_, pair, Or.inr represented⟩, _, pair, Or.inl rfl⟩
    · exact Or.inr ⟨_, ⟨_, same ▸ other, Or.inl held⟩, _, pair, Or.inl rfl⟩

end RoutingPolicy.Text

import RoutingPolicy.Site.Mapping

/-!
# The inverse of a mapping

Inverting a mapping keeps its pairs: a site is a destination of a source exactly when the source is
listed under it. A source without a destination is not entered, so the pairs determine the inverse,
whatever their order and repetition.
-/

set_option autoImplicit false

namespace RoutingPolicy.DestinationMap

variable {m m' : DestinationMap} {source destination s d : String}

def Sends (m : DestinationMap) (source destination : String) : Prop :=
  ∃ known, m.bySource.get? source = some known ∧ destination ∈ known

def Full (m : DestinationMap) : Prop :=
  ∀ source known, m.bySource.get? source = some known → ∃ destination, destination ∈ known

theorem sends_empty : ¬ empty.Sends source destination := by
  intro sends
  rcases sends with ⟨known, found, _⟩
  cases found

theorem full_empty : empty.Full := by
  intro source known found
  cases found

theorem sends_add :
    (m.add source destination).Sends s d ↔ m.Sends s d ∨ (s, d) = (source, destination) := by
  rw [Sends, Sends, add, SortedMap.get?_alter, Prod.mk.injEq]
  by_cases same : s = source
  · subst same
    rw [if_pos rfl]
    cases m.bySource.get? s with
    | none => simp [SortedSet.mem_insert]
    | some known => simp [SortedSet.mem_insert, or_comm]
  · simp [same]

theorem Full.add (full : m.Full) (source destination : String) :
    (m.add source destination).Full := by
  intro s known found
  rw [DestinationMap.add, SortedMap.get?_alter] at found
  split at found
  · rw [← Option.some.inj found]
    exact ⟨destination, SortedSet.mem_insert.2 (.inl rfl)⟩
  · exact full s known found

theorem sends_foldl_add {listed : List (String × String)} :
    (listed.foldl (fun m (source, destination) => m.add source destination) m).Sends s d ↔
      m.Sends s d ∨ (s, d) ∈ listed := by
  induction listed generalizing m with
  | nil => simp
  | cons pair listed induction =>
      rw [List.foldl_cons, induction, sends_add, List.mem_cons, or_assoc]

theorem Full.foldl_add (full : m.Full) (listed : List (String × String)) :
    (listed.foldl (fun m (source, destination) => m.add source destination) m).Full := by
  induction listed generalizing m with
  | nil => exact full
  | cons pair listed induction => exact induction (full.add pair.1 pair.2)

theorem Full.isSome_get? (full : m.Full)
    (within : ∀ destination, m.Sends source destination → m'.Sends source destination)
    (found : (m.bySource.get? source).isSome = true) :
    (m'.bySource.get? source).isSome = true := by
  rcases Option.isSome_iff_exists.1 found with ⟨known, found⟩
  rcases full source known found with ⟨destination, listed⟩
  rcases within destination ⟨known, found, listed⟩ with ⟨known', found', _⟩
  rw [found']
  rfl

theorem ext_sends (full : m.Full) (full' : m'.Full)
    (same : ∀ source destination, m.Sends source destination ↔ m'.Sends source destination) :
    m = m' := by
  have bySource : m.bySource = m'.bySource := by
    apply SortedMap.ext_get?
    intro source
    have there := full.isSome_get? fun destination => (same source destination).1
    have back := full'.isSome_get? fun destination => (same source destination).2
    have pairs := same source
    simp only [Sends] at pairs
    cases found : m.bySource.get? source with
    | none => simp_all
    | some known =>
        cases found' : m'.bySource.get? source with
        | none => simp_all
        | some known' =>
            congr 1
            apply SortedSet.ext
            intro destination
            simpa [found, found'] using pairs destination
  cases m
  cases m'
  cases bySource
  rfl

/-! ### Inversion -/

def Takes (m : SourcesByDestination) (destination source : String) : Prop :=
  ∃ sources, m.get? destination = some sources ∧ source ∈ sources

theorem mem_pairs {m : SourcesByDestination} {destination source : String} :
    (source, destination) ∈ pairs m ↔ Takes m destination source := by
  simp only [DestinationMap.pairs, List.mem_flatMap, List.mem_map, Prod.mk.injEq, Takes,
    SortedMap.get?_eq_some_iff, Prod.exists]
  constructor
  · intro paired
    rcases paired with ⟨_, sources, listed, _, member, rfl, rfl⟩
    exact ⟨sources, listed, member⟩
  · intro takes
    rcases takes with ⟨sources, listed, member⟩
    exact ⟨destination, sources, listed, source, member, rfl, rfl⟩

theorem sends_invert {sources : SourcesByDestination} :
    (invert sources).Sends source destination ↔ Takes sources destination source := by
  rw [invert, sends_foldl_add, mem_pairs]
  exact or_iff_right sends_empty

/-- Mappings with the same pairs have the same inverse. -/
theorem invert_congr {sources sources' : SourcesByDestination}
    (same : ∀ destination source, Takes sources destination source ↔
      Takes sources' destination source) : invert sources = invert sources' := by
  apply ext_sends (full_empty.foldl_add _) (full_empty.foldl_add _)
  intro source destination
  exact sends_invert.trans ((same destination source).trans sends_invert.symm)

/-! ### Within one whitelist -/

variable {whitelist : Whitelist}

theorem getD_get?_scoped : ((m.scoped whitelist).get? source).getD [] =
    ((m.bySource.get? source).getD .empty).toList.filter whitelist.contains := by
  rw [ScopedMapping.get?, DestinationMap.scoped, SortedMap.get?_filterMap]
  cases m.bySource.get? source with
  | none => rfl
  | some known =>
      simp only [Option.bind_some, Option.getD_some, List.isEmpty_iff]
      split
      · next nothing => rw [nothing]; rfl
      · rfl

/-- A whitelist narrows the destinations down to its own, and leaves them in order. -/
theorem mem_getD_get?_scoped : destination ∈ ((m.scoped whitelist).get? source).getD [] ↔
    whitelist.contains destination = true ∧ m.Sends source destination := by
  rw [getD_get?_scoped, List.mem_filter, and_comm, Sends]
  cases m.bySource.get? source with
  | none => simp [SortedSet.empty]
  | some known => simp [Membership.mem]

theorem ascending_getD_get?_scoped (m : DestinationMap) (whitelist : Whitelist) (source : String) :
    Ascending (((m.scoped whitelist).get? source).getD []) := by
  rw [getD_get?_scoped]
  exact ((m.bySource.get? source).getD .empty).ascending.filter _

theorem ne_nil_of_get?_scoped {kept : List String}
    (found : (m.scoped whitelist).get? source = some kept) : kept ≠ [] := by
  rw [ScopedMapping.get?, DestinationMap.scoped, SortedMap.get?_filterMap,
    Option.bind_eq_some_iff] at found
  rcases found with ⟨known, _, left⟩
  dsimp only at left
  split at left
  · cases left
  · next filled =>
      rw [← Option.some.inj left]
      simpa using filled

end RoutingPolicy.DestinationMap

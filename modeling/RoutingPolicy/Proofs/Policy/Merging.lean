import RoutingPolicy.Policy.Reader

/-!
# Keys that stand for one integer

A section takes its keys in ascending order of their texts, which is not the order of the integers
that they stand for. The tasks of each key are added behind those that its group has, so a group
only grows at its end. What is left of the section under an integer are the tasks of all its keys,
each where it occurs first; and the first key that stands for no integer is the error.
-/

set_option autoImplicit false

namespace RoutingPolicy

theorem addAllNew_append {α : Type} [BEq α] (items more rest : List α) :
    addAllNew items (more ++ rest) = addAllNew (addAllNew items more) rest :=
  List.foldl_append

namespace ThresholdMap

variable {m m' : ThresholdMap} {listed : List (String × List String)} {t : Int64}
  {group : List String}

/-! ### Tasks are added at the end -/

theorem get?_insert (m : ThresholdMap) (threshold : Int64) (tasks : List String) (t : Int64) :
    (m.insert threshold tasks).get? t =
      if t = threshold then some (addAllNew ((m.get? t).getD []) tasks) else m.get? t := by
  have altered : (m.insert threshold tasks).get? t =
      if t = threshold then some (addAllNew ((m.get? threshold).getD []) tasks) else m.get? t :=
    SortedMap.get?_alter ..
  rw [altered]
  split
  · next same => rw [same]
  · rfl

theorem exists_get?_insert (kept : m.get? t = some group) (threshold : Int64)
    (tasks : List String) : ∃ more, (m.insert threshold tasks).get? t = some (group ++ more) := by
  rw [get?_insert, kept, Option.getD_some]
  split
  · exact ⟨_, congrArg some (addAllNew_eq group tasks)⟩
  · exact ⟨[], by rw [List.append_nil]⟩

def insertAll (m : ThresholdMap) (added : List (Int64 × List String)) : ThresholdMap :=
  added.foldl (fun m (threshold, tasks) => m.insert threshold tasks) m

theorem exists_get?_insertAll (kept : m.get? t = some group) (added : List (Int64 × List String)) :
    ∃ more, (m.insertAll added).get? t = some (group ++ more) := by
  induction added generalizing m group with
  | nil => exact ⟨[], by rw [insertAll, List.foldl_nil, kept, List.append_nil]⟩
  | cons entry added induction =>
      obtain ⟨more, longer⟩ := exists_get?_insert kept entry.1 entry.2
      obtain ⟨rest, whole⟩ := induction longer
      exact ⟨more ++ rest, by rw [← List.append_assoc]; exact whole⟩

theorem pairwise_toList (m : ThresholdMap) : m.toList.Pairwise fun a b => a.1 < b.1 :=
  m.groups.ascending.imp Std.compare_eq_lt.1

/-! ### Keys one after the other -/

def entriesAt (listed : List (String × List String)) (t : Int64) : List (String × List String) :=
  listed.filter fun entry => readThreshold? entry.1 = some t

theorem entriesAt_eq_nil_iff :
    entriesAt listed t = [] ↔ ∀ entry ∈ listed, readThreshold? entry.1 ≠ some t := by
  simp [entriesAt]

/-- The tasks of the keys that stand for `t` are behind those that `t` had before. -/
theorem get?_addKeys (read : addKeys m listed = .ok m') (t : Int64) :
    m'.get? t =
      if entriesAt listed t = [] then m.get? t
      else some (addAllNew ((m.get? t).getD []) ((entriesAt listed t).flatMap (·.2))) := by
  induction listed generalizing m with
  | nil =>
      cases read
      rfl
  | cons entry listed induction =>
      obtain ⟨key, tasks⟩ := entry
      rw [addKeys] at read
      cases stands : readThreshold? key with
      | none =>
          rw [stands] at read
          cases read
      | some threshold =>
          rw [stands] at read
          rw [induction read, get?_insert]
          by_cases own : t = threshold
          · subst own
            have first :
                entriesAt ((key, tasks) :: listed) t = (key, tasks) :: entriesAt listed t :=
              List.filter_cons_of_pos (decide_eq_true stands)
            rw [if_pos rfl, first, if_neg (List.cons_ne_nil _ _), List.flatMap_cons,
              addAllNew_append, Option.getD_some]
            split
            · next none => rw [none, List.flatMap_nil, addAllNew, addAllNew, List.foldl_nil]
            · rfl
          · have other : entriesAt ((key, tasks) :: listed) t = entriesAt listed t := by
              refine List.filter_cons_of_neg ?_
              rw [stands, decide_eq_true_iff, Option.some.injEq]
              exact Ne.symm own
            rw [if_neg own, other]

theorem addKeys_eq_error_iff {key : String} :
    addKeys m listed = .error key ↔
      ∃ entry, (listed.find? fun entry => (readThreshold? entry.1).isNone) = some entry ∧
        entry.1 = key := by
  induction listed generalizing m with
  | nil => simp [addKeys]
  | cons entry listed induction =>
      obtain ⟨first, tasks⟩ := entry
      rw [addKeys]
      cases stands : readThreshold? first with
      | none =>
          rw [List.find?_cons_of_pos (by rw [stands]; rfl)]
          simp
      | some threshold =>
          rw [List.find?_cons_of_neg (by rw [stands]; exact Bool.false_ne_true)]
          exact induction

end ThresholdMap

/-! ### Sections -/

def tasksAt (listed : TasksByKey) (t : Int64) : List String :=
  (ThresholdMap.entriesAt listed.entries t).flatMap (·.2)

/-- A key that stands for no integer, and the least of them. -/
structure IsFirstRejected (keys : List String) (key : String) : Prop where
  among : key ∈ keys
  rejected : readThreshold? key = none
  accepted : ∀ smaller ∈ keys, smaller < key → readThreshold? smaller ≠ none

theorem isFirstRejected_congr {keys keys' : List String} (same : ∀ k, k ∈ keys ↔ k ∈ keys')
    (key : String) : IsFirstRejected keys key ↔ IsFirstRejected keys' key := by
  constructor
  · rintro ⟨among, rejected, accepted⟩
    exact ⟨(same key).1 among, rejected, fun k member => accepted k ((same k).2 member)⟩
  · rintro ⟨among, rejected, accepted⟩
    exact ⟨(same key).2 among, rejected, fun k member => accepted k ((same k).1 member)⟩

/-- The groups are those of the section as a whole, and they stay what they are at the front. -/
structure MergesInto (listed : TasksByKey) (m : ThresholdMap) : Prop where
  absent_iff : ∀ t, m.get? t = none ↔ ∀ key ∈ listed.keys, readThreshold? key ≠ some t
  present : ∀ t group, m.get? t = some group → group = (tasksAt listed t).eraseDups
  ascending : m.toList.Pairwise fun a b => a.1 < b.1
  mem_iff : ∀ t group, (t, group) ∈ m.toList ↔ m.get? t = some group
  kept : ∀ t group, m.get? t = some group → ∀ added,
    ∃ more, (m.insertAll added).get? t = some (group ++ more)

/-- What it comes to if the section is read. -/
structure ReadsAs (category : String) (listed : TasksByKey)
    (result : Except PolicyError ThresholdMap) : Prop where
  fails_iff : (∃ e, result = .error e) ↔ ∃ key ∈ listed.keys, readThreshold? key = none
  names_first : ∀ e, result = .error e →
    ∃ key, IsFirstRejected listed.keys key ∧ e = .invalidThreshold category key
  merges : ∀ m, result = .ok m → MergesInto listed m

section

variable {category key : String} {listed : TasksByKey} {m : ThresholdMap}

theorem mem_keys_iff : key ∈ listed.keys ↔ ∃ tasks, (key, tasks) ∈ listed.entries := by
  simp [SortedMap.keys]

theorem ofSection_eq_error_iff :
    ThresholdMap.ofSection listed = .error key ↔ IsFirstRejected listed.keys key := by
  rw [ThresholdMap.ofSection, ThresholdMap.addKeys_eq_error_iff]
  have ascending := listed.ascending
  constructor
  · rintro ⟨⟨key, tasks⟩, found, rfl⟩
    obtain ⟨rejected, before, after, entries, accepted⟩ := List.find?_eq_some_iff_append.1 found
    rw [AscendingKeys, entries, List.pairwise_append, List.pairwise_cons] at ascending
    refine ⟨mem_keys_iff.2 ⟨tasks, by simp [entries]⟩, Option.isNone_iff_eq_none.1 rejected, ?_⟩
    intro smaller member below
    obtain ⟨tasks', entry⟩ := mem_keys_iff.1 member
    rw [entries, List.mem_append, List.mem_cons] at entry
    rcases entry with earlier | same | later
    · simpa [Option.isSome_iff_ne_none] using accepted _ earlier
    · cases same
      exact absurd below (String.lt_irrefl _)
    · have above := compareOfLessAndEq_eq_lt.1 (ascending.2.1.1 _ later)
      exact absurd (String.lt_trans below above) (String.lt_irrefl _)
  · rintro ⟨member, rejected, accepted⟩
    obtain ⟨tasks, entry⟩ := mem_keys_iff.1 member
    obtain ⟨before, after, entries⟩ := List.append_of_mem entry
    refine ⟨(key, tasks), List.find?_eq_some_iff_append.2 ⟨?_, before, after, entries, ?_⟩, rfl⟩
    · exact Option.isNone_iff_eq_none.2 rejected
    · intro earlier front
      rw [AscendingKeys, entries, List.pairwise_append] at ascending
      have below := compareOfLessAndEq_eq_lt.1 (ascending.2.2 _ front _ List.mem_cons_self)
      have listed : (earlier.1, earlier.2) ∈ listed.entries :=
        entries ▸ List.mem_append_left _ front
      simpa [Option.isSome_iff_ne_none] using accepted _ (mem_keys_iff.2 ⟨_, listed⟩) below

theorem exists_isFirstRejected_iff :
    (∃ key, IsFirstRejected listed.keys key) ↔ ∃ key ∈ listed.keys, readThreshold? key = none := by
  constructor
  · rintro ⟨key, first⟩
    exact ⟨key, first.among, first.rejected⟩
  · rintro ⟨key, member, rejected⟩
    obtain ⟨tasks, entry⟩ := mem_keys_iff.1 member
    have some_rejected : (listed.entries.find? fun entry =>
        (readThreshold? entry.1).isNone).isSome = true :=
      List.find?_isSome.2 ⟨_, entry, Option.isNone_iff_eq_none.2 rejected⟩
    obtain ⟨first, found⟩ := Option.isSome_iff_exists.1 some_rejected
    exact ⟨first.1, ofSection_eq_error_iff.1
      (ThresholdMap.addKeys_eq_error_iff.2 ⟨first, found, rfl⟩)⟩

theorem get?_ofSection (read : ThresholdMap.ofSection listed = .ok m) (t : Int64) :
    m.get? t =
      if ThresholdMap.entriesAt listed.entries t = [] then none
      else some (tasksAt listed t).eraseDups := by
  rw [ThresholdMap.get?_addKeys read, ← addAllNew_eq_eraseDups]
  rfl

theorem mergesInto_of_ofSection (read : ThresholdMap.ofSection listed = .ok m) :
    MergesInto listed m where
  absent_iff t := by
    rw [get?_ofSection read]
    simp [ThresholdMap.entriesAt_eq_nil_iff, SortedMap.keys]
  present t group found := by
    rw [get?_ofSection read] at found
    split at found
    · cases found
    · exact (Option.some.inj found).symm
  ascending := m.pairwise_toList
  mem_iff t group := SortedMap.get?_eq_some_iff.symm
  kept t group found added := ThresholdMap.exists_get?_insertAll found added

/-- A section is refused exactly if a key stands for no integer, at the least such key. Otherwise
every integer has the tasks of all keys that stand for it, without the repetitions, and keeps them
in this order whatever is added. -/
theorem thresholds_readsAs (category : String) (listed : TasksByKey) :
    ReadsAs category listed (Sections.thresholds category listed) := by
  rw [Sections.thresholds]
  cases read : ThresholdMap.ofSection listed with
  | error key =>
      have first := ofSection_eq_error_iff.1 read
      exact {
        fails_iff := iff_of_true ⟨_, rfl⟩ ⟨key, first.among, first.rejected⟩
        names_first := fun e same => ⟨key, first, (Except.error.inj same).symm⟩
        merges := fun m same => nomatch same }
  | ok m =>
      have none_rejected : ¬ ∃ key ∈ listed.keys, readThreshold? key = none := by
        rw [← exists_isFirstRejected_iff]
        rintro ⟨key, first⟩
        rw [ofSection_eq_error_iff.2 first] at read
        cases read
      exact {
        fails_iff := iff_of_false (fun ⟨e, same⟩ => nomatch same) none_rejected
        names_first := fun e same => nomatch same
        merges := fun m' same => Except.ok.inj same ▸ mergesInto_of_ofSection read }

/-- Two keys for one integer, with an integer below them that is written behind. -/
example : (Sections.thresholds "memory" (.ofList [("2000", ["/wf/A"]), ("4000", ["/wf/C"]),
      ("2000.0", ["/wf/B", "/wf/A"]), ("5e2", ["/wf/D"])])).toOption.map ThresholdMap.toList =
    some [(500, ["/wf/D"]), (2000, ["/wf/A", "/wf/B"]), (4000, ["/wf/C"])] := by
  decide +kernel

end

end RoutingPolicy

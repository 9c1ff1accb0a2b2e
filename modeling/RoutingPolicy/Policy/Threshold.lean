import RoutingPolicy.Collections.Distinct
import RoutingPolicy.Collections.SortedMap
import RoutingPolicy.Number.Decimal
import RoutingPolicy.Number.Integer
import RoutingPolicy.Text.Blank

/-!
# Thresholds

Some sections of a policy list tasks under a number. The number is written as an integer or in
decimal notation, and its fraction is cut off. Keys that stand for the same integer name one group:
its tasks are those of all its keys, each task where it occurs first.
-/

set_option autoImplicit false

namespace RoutingPolicy

/-- The integer that a key stands for: what is written, without its fraction, if 64 bits hold it. An
integer is read as it is, anything else as the nearest double. -/
def readThreshold? (key : String) : Option Int64 :=
  let written := Text.trim key
  match Integer.read? written with
  | some i => some i
  | none => (Binary64.read? written).bind fun r => r.truncate?.bind Integer.ofInt?

structure ThresholdMap where
  /-- The tasks of each threshold, in order of first occurrence. -/
  groups : SortedMap Int64 (List String)
  distinct : ∀ g ∈ groups.entries, g.2.Nodup

namespace ThresholdMap

def empty : ThresholdMap := ⟨.empty, fun g h => by simp [SortedMap.empty] at h⟩

def insertTasks (groups : SortedMap Int64 (List String)) (threshold : Int64) (tasks : List String) :
    SortedMap Int64 (List String) :=
  groups.alter threshold fun known => some (addAllNew (known.getD []) tasks)

theorem distinct_insertTasks (m : ThresholdMap) (threshold : Int64) (tasks : List String) :
    ∀ g ∈ (insertTasks m.groups threshold tasks).entries, g.2.Nodup := by
  intro g hg
  have h := SortedMap.get?_eq_some_iff.2 hg
  rw [insertTasks, SortedMap.get?_alter] at h
  split at h
  · rw [← Option.some.inj h]
    refine nodup_addAllNew ?_
    cases hknown : m.groups.get? threshold with
    | none => exact List.nodup_nil
    | some known => exact m.distinct _ (SortedMap.get?_eq_some_iff.1 hknown)
  · exact m.distinct _ (SortedMap.get?_eq_some_iff.1 h)

def insert (m : ThresholdMap) (threshold : Int64) (tasks : List String) : ThresholdMap :=
  ⟨insertTasks m.groups threshold tasks, m.distinct_insertTasks threshold tasks⟩

def get? (m : ThresholdMap) (threshold : Int64) : Option (List String) := m.groups.get? threshold

def toList (m : ThresholdMap) : List (Int64 × List String) := m.groups.entries

def lowest? (m : ThresholdMap) (task : String) : Option Int64 :=
  (m.toList.find? fun g => g.2.contains task).map (·.1)

def size (m : ThresholdMap) : Nat := m.groups.size

def isEmpty (m : ThresholdMap) : Bool := m.groups.isEmpty

/-- Adds the tasks under every key; a key that stands for no integer is returned instead. -/
def addKeys (m : ThresholdMap) : List (String × List String) → Except String ThresholdMap
  | [] => .ok m
  | (key, tasks) :: rest =>
    match readThreshold? key with
    | none => .error key
    | some threshold => addKeys (m.insert threshold tasks) rest

def ofSection (listed : SortedMap String (List String)) : Except String ThresholdMap :=
  addKeys empty listed.entries

end ThresholdMap

end RoutingPolicy

import RoutingPolicy.Proofs.Policy.Merging
import RoutingPolicy.Proofs.Policy.Shape

/-!
# What comes of an object

Members that are no sections are passed over, so they never matter. Each section is what its member
says, and a section of another shape makes the document malformed whatever the others are. Only then
the keys that stand for thresholds are looked at: section after section, the keys of each ascending.
-/

set_option autoImplicit false

namespace RoutingPolicy

/-! ### Sections -/

namespace Sections

open Shaped

/-- The sections that list tasks by threshold, in the order in which their keys are looked at. -/
def categories : List String := ["read", "memory", "time", "slope"]

def tasksOf (s : Sections) : String → TasksByKey
  | "read" => s.read
  | "memory" => s.memory
  | "time" => s.time
  | "slope" => s.slope
  | _ => .empty

theorem sets_tasksOf {category : String} (known : category ∈ categories) :
    Sets take category (map strings) (tasksOf · category) := by
  intro s s' name document taken
  unfold take at taken
  simp only [categories, List.mem_cons, List.not_mem_nil, or_false] at known
  split at taken
  case h_16 =>
    cases taken
    rw [if_neg (by rintro rfl; simp_all)]
  all_goals
    obtain ⟨part, read, rfl⟩ := ok_of_map taken
    rcases known with rfl | rfl | rfl | rfl <;> first | exact read | rfl

def keysIn (object : SortedMap String Json) (category : String) : List String :=
  (object.get? category).elim [] Json.memberNames

theorem mem_keys_tasksOf {category : String} (known : category ∈ categories)
    {object : SortedMap String Json} {s : Sections} (read : ofMembers object.entries = .ok s)
    (key : String) : key ∈ (s.tasksOf category).keys ↔ key ∈ keysIn object category := by
  rw [keysIn]
  have part := (sets_tasksOf known).fields read
  rw [SortedMap.ofList_entries] at part
  cases document : object.get? category with
  | none =>
      rw [document] at part
      have none : s.tasksOf category = SortedMap.empty := by
        rw [← Except.ok.inj part]
        simp only [categories, List.mem_cons, List.not_mem_nil, or_false] at known
        rcases known with rfl | rfl | rfl | rfl <;> rfl
      rw [none]
      exact Iff.rfl
  | some document =>
      rw [document] at part
      exact mem_keys_of_map part key

def isSection (name : String) : Bool := Policy.sections.any (·.name == name)

theorem ofMembers_filter (members : List (String × Json)) :
    ofMembers (members.filter fun m => isSection m.1) = ofMembers members := by
  refine fields_filter isSection ?_ empty members
  intro s name document unknown
  unfold take
  split
  case h_16 => rfl
  all_goals exact absurd unknown (by decide)

/-! ### Thresholds -/

def refusal? {α : Type} : Except PolicyError α → Option PolicyError
  | .ok _ => none
  | .error e => some e

theorem refusal?_eq_some_iff {α : Type} {x : Except PolicyError α} {e : PolicyError} :
    refusal? x = some e ↔ x = .error e := by
  cases x with
  | ok a => simp [refusal?]
  | error cause => simp [refusal?]

theorem refusal?_eq_none_iff {α : Type} {x : Except PolicyError α} :
    refusal? x = none ↔ ∃ a, x = .ok a := by
  cases x with
  | ok a => exact iff_of_true rfl ⟨a, rfl⟩
  | error cause => simp [refusal?]

theorem refusal?_toPolicy (s : Sections) :
    refusal? s.toPolicy =
      categories.findSome? fun category => refusal? (thresholds category (s.tasksOf category)) := by
  simp only [toPolicy, categories, tasksOf, List.findSome?_cons, List.findSome?_nil]
  cases thresholds "read" s.read with
  | error e => rfl
  | ok read =>
      cases thresholds "memory" s.memory with
      | error e => rfl
      | ok memory =>
          cases thresholds "time" s.time with
          | error e => rfl
          | ok time => cases thresholds "slope" s.slope <;> rfl

theorem thresholds_eq_error_iff {category : String} {tasks : TasksByKey} {e : PolicyError} :
    thresholds category tasks = .error e ↔
      ∃ key, IsFirstRejected tasks.keys key ∧ e = .invalidThreshold category key := by
  rw [thresholds]
  cases read : ThresholdMap.ofSection tasks with
  | ok m =>
      constructor
      · intro same
        cases same
      · rintro ⟨key, first, -⟩
        rw [ofSection_eq_error_iff.2 first] at read
        cases read
  | error key =>
      have first := ofSection_eq_error_iff.1 read
      constructor
      · intro same
        exact ⟨key, first, (Except.error.inj same).symm⟩
      · rintro ⟨other, least, rfl⟩
        rw [← ofSection_eq_error_iff, read] at least
        rw [Except.error.inj least]
        rfl

theorem refusal?_thresholds_eq_none_iff {category : String} {tasks : TasksByKey} :
    refusal? (thresholds category tasks) = none ↔
      ∀ key ∈ tasks.keys, readThreshold? key ≠ none := by
  rw [Option.eq_none_iff_forall_ne_some]
  constructor
  · intro accepted key member rejected
    obtain ⟨first, least⟩ := exists_isFirstRejected_iff.2 ⟨key, member, rejected⟩
    exact accepted _ (refusal?_eq_some_iff.2 (thresholds_eq_error_iff.2 ⟨first, least, rfl⟩))
  · intro accepted e refused
    obtain ⟨key, least, -⟩ := thresholds_eq_error_iff.1 (refusal?_eq_some_iff.1 refused)
    exact accepted key least.among least.rejected

end Sections

/-! ### Results -/

namespace Policy

open Sections

def HasShape (object : SortedMap String Json) : Prop :=
  ∀ f ∈ sections, ∀ document, object.get? f.name = some document → f.shape document = true

/-- No section before has a key that stands for no integer, and the key is the least one here. -/
structure IsFirstInvalid (object : SortedMap String Json) (category key : String) : Prop where
  earlier : ∃ before after, categories = before ++ category :: after ∧
    ∀ other ∈ before, ∀ k ∈ keysIn object other, readThreshold? k ≠ none
  least : IsFirstRejected (keysIn object category) key

/-- What comes of an object, and what that does not depend on. -/
structure ParsesTo (object : SortedMap String Json) (result : Except PolicyError Policy) :
    Prop where
  ignores : ∀ other : SortedMap String Json,
    (∀ f ∈ sections, other.get? f.name = object.get? f.name) →
      ofJson (.object other.entries) = result
  is_object : ∀ kind, result ≠ .error (.notAnObject kind)
  malformed_iff : (∃ cause, result = .error (.malformed cause)) ↔ ¬HasShape object
  invalid_iff : ∀ category key, result = .error (.invalidThreshold category key) ↔
    HasShape object ∧ IsFirstInvalid object category key
  parses_iff : (∃ p, result = .ok p) ↔ HasShape object ∧
    ∀ category ∈ categories, ∀ key ∈ keysIn object category, readThreshold? key ≠ none

variable {object other : SortedMap String Json} {s : Sections}

theorem isOk_ofMembers_iff : (ofMembers object.entries).isOk = true ↔ HasShape object := by
  rw [isOk_ofMembers, List.all_eq_true]
  constructor
  · intro fits f known document found
    have admits := List.all_eq_true.1 (fits _ (SortedMap.get?_eq_some_iff.1 found)) f known
    rwa [Json.Field.admits, bne_self_eq_false, Bool.false_or] at admits
  · intro shape member listed
    refine List.all_eq_true.2 fun f known => ?_
    by_cases own : member.1 = f.name
    · have found : object.get? f.name = some member.2 :=
        SortedMap.get?_eq_some_iff.2 (own ▸ listed)
      rw [Json.Field.admits, shape f known _ found, Bool.or_true]
    · rw [Json.Field.admits, bne_iff_ne.2 own, Bool.true_or]

theorem ofMembers_congr (same : ∀ f ∈ sections, other.get? f.name = object.get? f.name) :
    ofMembers other.entries = ofMembers object.entries := by
  have agree (name : String) (known : isSection name = true) :
      other.get? name = object.get? name := by
    obtain ⟨f, listed, own⟩ := List.any_eq_true.1 known
    rw [← beq_iff_eq.1 own]
    exact same f listed
  have entries := SortedMap.filter_entries_congr isSection agree
  rw [← ofMembers_filter, entries, ofMembers_filter]

theorem toPolicy_eq_error_iff (read : ofMembers object.entries = .ok s) (e : PolicyError) :
    s.toPolicy = .error e ↔
      ∃ category key, IsFirstInvalid object category key ∧ e = .invalidThreshold category key := by
  rw [← refusal?_eq_some_iff, refusal?_toPolicy, List.findSome?_eq_some_iff]
  constructor
  · rintro ⟨before, category, after, order, refused, accepted⟩
    have known : category ∈ categories := order ▸ List.mem_append_right _ List.mem_cons_self
    obtain ⟨key, least, rfl⟩ := thresholds_eq_error_iff.1 (refusal?_eq_some_iff.1 refused)
    refine ⟨category, key, ⟨⟨before, after, order, fun other front k member => ?_⟩, ?_⟩, rfl⟩
    · have listed : other ∈ categories := order ▸ List.mem_append_left _ front
      exact refusal?_thresholds_eq_none_iff.1 (accepted other front) k
        ((mem_keys_tasksOf listed read k).2 member)
    · exact (isFirstRejected_congr (mem_keys_tasksOf known read) key).1 least
  · rintro ⟨category, key, ⟨⟨before, after, order, accepted⟩, least⟩, rfl⟩
    have known : category ∈ categories := order ▸ List.mem_append_right _ List.mem_cons_self
    refine ⟨before, category, after, order, ?_, fun other front => ?_⟩
    · rw [refusal?_eq_some_iff, thresholds_eq_error_iff]
      exact ⟨key, (isFirstRejected_congr (mem_keys_tasksOf known read) key).2 least, rfl⟩
    · have listed : other ∈ categories := order ▸ List.mem_append_left _ front
      rw [refusal?_thresholds_eq_none_iff]
      exact fun k member => accepted other front k ((mem_keys_tasksOf listed read k).1 member)

theorem exists_toPolicy_iff (read : ofMembers object.entries = .ok s) :
    (∃ p, s.toPolicy = .ok p) ↔
      ∀ category ∈ categories, ∀ key ∈ keysIn object category, readThreshold? key ≠ none := by
  rw [← refusal?_eq_none_iff, refusal?_toPolicy, List.findSome?_eq_none_iff]
  refine forall₂_congr fun category known => ?_
  rw [refusal?_thresholds_eq_none_iff]
  exact forall_congr' fun key => imp_congr_left (mem_keys_tasksOf known read key)

theorem parsesTo_of_error {cause : Malformation}
    (read : ofMembers object.entries = .error cause) :
    ParsesTo object (.error (.malformed cause)) := by
  have shapeless : ¬HasShape object := by
    rw [← isOk_ofMembers_iff, read]
    exact Bool.false_ne_true
  exact {
    ignores := by
      intro other same
      rw [ofJson, ofMembers_congr same, read]
    is_object := fun kind same => nomatch same
    malformed_iff := iff_of_true ⟨cause, rfl⟩ shapeless
    invalid_iff := fun category key =>
      iff_of_false (fun same => nomatch same) fun invalid => shapeless invalid.1
    parses_iff := iff_of_false (fun ⟨p, same⟩ => nomatch same) fun parses => shapeless parses.1 }

theorem parsesTo_of_ok (read : ofMembers object.entries = .ok s) :
    ParsesTo object s.toPolicy := by
  have shape : HasShape object := by
    rw [← isOk_ofMembers_iff, read]
    rfl
  have refused (e : PolicyError) := toPolicy_eq_error_iff read e
  have isThreshold {e : PolicyError} (same : s.toPolicy = .error e) : e.isThreshold = true := by
    obtain ⟨category, key, -, rfl⟩ := (refused e).1 same
    rfl
  exact {
    ignores := by
      intro other same
      rw [ofJson, ofMembers_congr same, read]
    is_object := fun kind same => Bool.false_ne_true (isThreshold same)
    malformed_iff := by
      refine iff_of_false ?_ (not_not_intro shape)
      rintro ⟨cause, same⟩
      exact Bool.false_ne_true (isThreshold same)
    invalid_iff := by
      intro category key
      rw [refused]
      constructor
      · rintro ⟨category, key, first, same⟩
        cases same
        exact ⟨shape, first⟩
      · rintro ⟨-, first⟩
        exact ⟨category, key, first, rfl⟩
    parses_iff := (exists_toPolicy_iff read).trans (and_iff_right shape).symm }

/-- What is no section of a policy does not matter. A section of another shape makes the document
malformed, whatever the keys are. Otherwise the first section with an invalid key is named with the
least such key, and if there is none the document is a policy. -/
theorem ofJson_parsesTo (object : SortedMap String Json) :
    ParsesTo object (ofJson (.object object.entries)) := by
  rw [ofJson]
  cases read : ofMembers object.entries with
  | error cause => exact parsesTo_of_error read
  | ok s => exact parsesTo_of_ok read

/-- Two sections have invalid keys, and the one that is read first is not the one named. -/
example : refusal? (ofJson (.ofMembers [
      ("Memory", .null), ("memory", .object [("high", .array [])]),
      ("read", .object [("1.5", .array []), ("5e400", .array [])])])) =
    some (.invalidThreshold "read" "5e400") := by
  decide +kernel

end Policy

end RoutingPolicy

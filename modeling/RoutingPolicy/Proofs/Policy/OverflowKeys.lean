import RoutingPolicy.Proofs.Policy.SetLike
import RoutingPolicy.Proofs.Policy.Shape
import RoutingPolicy.Proofs.Policy.Union

/-!
# Overflow in two places

The two parts of the section on overflow may stand at the top level as well. What is read is the
union of both places: of two lists of sources for one destination and of two modifications of one
task, the one in the section counts. So it does not matter in which place the whole section stands,
nor whether it stands in both.
-/

set_option autoImplicit false

namespace RoutingPolicy

/-! ### Documents -/

/-- The documents that stand for the two parts, in the section or at the top level. -/
structure OverflowParts where
  mapping? : Option Json
  modifications? : Option Json

namespace OverflowParts

def absent : OverflowParts := ⟨none, none⟩

/-- The parts of a section, which lists them or has them as members. -/
def ofSection : Json → OverflowParts
  | .array items => ⟨items[0]?, items[1]?⟩
  | document => ⟨document.member? "reversed_mapping", document.member? "modifications"⟩

def ofSection? (section? : Option Json) : OverflowParts := section?.elim absent ofSection

def sources? (parts : OverflowParts) (destination : String) : Option Json :=
  parts.mapping?.bind (·.member? destination)

def tasks? (parts : OverflowParts) (workflow : String) : Option Json :=
  parts.modifications?.bind (·.member? workflow)

def modification? (parts : OverflowParts) (workflow task : String) : Option Json :=
  (parts.tasks? workflow).bind (·.member? task)

end OverflowParts

open Shaped

section

variable {α : Type} {value : Json → Shaped α} {document? : Option Json}

theorem get?_of_itemOr {m : SortedMap String α}
    (read : itemOr .empty (map value) document? = .ok m) (k : String) :
    (m.get? k).map .ok = (document?.bind (·.member? k)).map value := by
  cases document? with
  | none =>
      cases read
      rfl
  | some document => exact get?_of_map read k

/-- At the top level null may stand in the place of an object. It says nothing. -/
theorem get?_of_nullable {stated : Option (SortedMap String α)}
    (read : itemOr none (nullable (map value)) document? = .ok stated) (k : String) :
    ((stated.getD .empty).get? k).map .ok = (document?.bind (·.member? k)).map value := by
  cases document? with
  | none =>
      cases read
      rfl
  | some document =>
      by_cases null : document = .null
      · cases null
        cases read
        rfl
      · rw [itemOr, nullable_of_ne_null null] at read
        obtain ⟨m, present, rfl⟩ := ok_of_map read
        exact get?_of_map present k

theorem exists_nullable_of_itemOr {m : SortedMap String α}
    (read : itemOr .empty (map value) document? = .ok m) :
    ∃ stated, itemOr none (nullable (map value)) document? = .ok stated ∧
      stated.getD .empty = m := by
  cases document? with
  | none =>
      cases read
      exact ⟨none, rfl, rfl⟩
  | some document =>
      cases document with
      | object members =>
          have present : nullable (map value) (.object members) = .ok (some m) :=
            congrArg (fun x => x >>= fun a => pure (some a)) read
          exact ⟨some m, present, rfl⟩
      | _ => cases read

end

namespace OverflowParts

variable {parts nested top : OverflowParts} {o other : Overflow}

structure Say (parts : OverflowParts) (o : Overflow) : Prop where
  mapping : ∀ destination,
    (o.sources? destination).map .ok = (parts.sources? destination).map strings
  modifications : ∀ workflow, (o.modifications.get? workflow).map .ok =
    (parts.tasks? workflow).map (map TaskModification.ofJson)

theorem Say.contains (say : parts.Say o) (workflow : String) :
    o.modifications.contains workflow = (parts.tasks? workflow).isSome := by
  have same := congrArg Option.isSome (say.modifications workflow)
  rwa [Option.isSome_map, Option.isSome_map] at same

theorem Say.modification? (say : parts.Say o) (workflow task : String) :
    (o.modification? workflow task).map .ok =
      (parts.modification? workflow task).map TaskModification.ofJson := by
  have listed := say.modifications workflow
  rw [Overflow.modification?, OverflowParts.modification?]
  cases known : o.modifications.get? workflow with
  | none =>
      rw [known] at listed
      have absent : parts.tasks? workflow = none := Option.map_eq_none_iff.1 listed.symm
      rw [absent]
      rfl
  | some tasks =>
      rw [known] at listed
      obtain ⟨document, found, read⟩ := Option.map_eq_some_iff.1 listed.symm
      rw [found]
      exact get?_of_map read task

/-- What is read lists what either of the parts lists, and no more. What both list is read as the
nested part has it. -/
structure IsUnion (nested top : OverflowParts) (o : Overflow) : Prop where
  sources : ∀ destination, (o.sources? destination).map .ok =
    ((nested.sources? destination).or (top.sources? destination)).map strings
  workflows : ∀ workflow, o.modifications.contains workflow =
    ((nested.tasks? workflow).isSome || (top.tasks? workflow).isSome)
  modifications : ∀ workflow task, (o.modification? workflow task).map .ok =
    ((nested.modification? workflow task).or (top.modification? workflow task)).map
      TaskModification.ofJson

theorem Say.isUnion (inside : nested.Say o) (outside : top.Say other) :
    IsUnion nested top (o.orElse other) where
  sources destination := by
    rw [Overflow.sources?_orElse, Option.map_or, inside.mapping, outside.mapping, Option.map_or]
  workflows workflow := by
    rw [Overflow.contains_orElse, inside.contains, outside.contains]
  modifications workflow task := by
    rw [Overflow.modification?_orElse, Option.map_or, inside.modification?,
      outside.modification?, Option.map_or]

structure Reads (parts : OverflowParts) (o : Overflow) : Prop where
  mapping : itemOr .empty Overflow.readMapping parts.mapping? = .ok o.reversedMapping
  modifications :
    itemOr .empty Overflow.readModifications parts.modifications? = .ok o.modifications

theorem Reads.say (reads : parts.Reads o) : parts.Say o where
  mapping := get?_of_itemOr reads.mapping
  modifications := get?_of_itemOr reads.modifications

theorem sets_overflow :
    Sets Overflow.take "reversed_mapping" Overflow.readMapping (·.reversedMapping) ∧
      Sets Overflow.take "modifications" Overflow.readModifications (·.modifications) := by
  refine ⟨?_, ?_⟩
  all_goals
    intro o o' name document taken
    unfold Overflow.take at taken
    split at taken
    case h_1 | h_2 =>
      obtain ⟨part, read, rfl⟩ := ok_of_map taken
      first | exact read | rfl
    case h_3 =>
      cases taken
      rw [if_neg (by assumption)]

theorem reads_ofSection {document : Json} (read : Overflow.ofJson document = .ok o) :
    (ofSection document).Reads o := by
  cases document with
  | object members =>
      obtain ⟨mapping, modifications⟩ := sets_overflow
      exact ⟨mapping.fields read, modifications.fields read⟩
  | array items =>
      rw [Overflow.ofJson] at read
      obtain ⟨m, mapping, read⟩ := ok_of_bind read
      obtain ⟨w, modifications, read⟩ := ok_of_bind read
      split at read
      · cases read
        exact ⟨mapping, modifications⟩
      · cases read
  | _ => cases read

theorem reads_ofSection? {section? : Option Json} {inside : Option Overflow}
    (read : itemOr none (nullable Overflow.ofJson) section? = .ok inside) :
    (ofSection? section?).Reads (inside.getD .empty) := by
  cases section? with
  | none =>
      cases read
      exact ⟨rfl, rfl⟩
  | some document =>
      by_cases null : document = .null
      · cases null
        cases read
        exact ⟨rfl, rfl⟩
      · rw [itemOr, nullable_of_ne_null null] at read
        obtain ⟨o, present, rfl⟩ := ok_of_map read
        exact reads_ofSection present

end OverflowParts

/-! ### Sections -/

/-- What is said of overflow, inside and outside the section on it. -/
structure Stated where
  inside : Option Overflow
  mapping : Option SourcesByDestination
  modifications : Option Modifications

namespace Stated

def nothing : Stated := ⟨none, none, none⟩

def merged (o : Stated) : Overflow :=
  (o.inside.getD .empty).orElse ⟨o.mapping.getD .empty, o.modifications.getD .empty⟩

structure ReadFrom (o : Stated) (section? : Option Json) (top : OverflowParts) : Prop where
  inside : itemOr none (nullable Overflow.ofJson) section? = .ok o.inside
  mapping : itemOr none (nullable Overflow.readMapping) top.mapping? = .ok o.mapping
  modifications :
    itemOr none (nullable Overflow.readModifications) top.modifications? = .ok o.modifications

theorem ReadFrom.unique {o o' : Stated} {section? : Option Json} {top : OverflowParts}
    (read : o.ReadFrom section? top) (read' : o'.ReadFrom section? top) : o = o' := by
  have inside := read.inside.symm.trans read'.inside
  have mapping := read.mapping.symm.trans read'.mapping
  have modifications := read.modifications.symm.trans read'.modifications
  cases o
  cases o'
  cases inside
  cases mapping
  cases modifications
  rfl

end Stated

namespace Sections

def stated (s : Sections) : Stated := ⟨s.overflow, s.reversedMapping, s.modifications⟩

def withStated (s : Sections) (o : Stated) : Sections :=
  { s with overflow := o.inside, reversedMapping := o.mapping, modifications := o.modifications }

def isOverflowKey (name : String) : Bool :=
  name == "overflow" || name == "reversed_mapping" || name == "modifications"

theorem isOverflowKey_iff {name : String} :
    isOverflowKey name = true ↔
      name = "overflow" ∨ name = "reversed_mapping" ∨ name = "modifications" := by
  simp only [isOverflowKey, Bool.or_eq_true, beq_iff_eq, or_assoc]

theorem toPolicy_withStated (s : Sections) (o : Stated) :
    (s.withStated o).toPolicy =
      Except.map (fun p => { p with overflow := o.merged }) s.toPolicy := by
  simp only [toPolicy_eq, withStated]
  cases thresholds "read" s.read with
  | error e => rfl
  | ok read =>
      cases thresholds "memory" s.memory with
      | error e => rfl
      | ok memory =>
          cases thresholds "time" s.time with
          | error e => rfl
          | ok time => cases thresholds "slope" s.slope <;> rfl

theorem take_withStated {name : String} (other : isOverflowKey name = false) (s : Sections)
    (o : Stated) (document : Json) :
    take (s.withStated o) name document =
      Except.map (·.withStated o) (take s name document) := by
  unfold take
  split
  case h_1 | h_2 | h_3 => cases other
  case h_16 => rfl
  all_goals exact bind_pure_id _ fun _ => rfl

theorem sets_stated :
    Sets take "overflow" (nullable Overflow.ofJson) (·.overflow) ∧
      Sets take "reversed_mapping" (nullable Overflow.readMapping) (·.reversedMapping) ∧
        Sets take "modifications" (nullable Overflow.readModifications) (·.modifications) := by
  refine ⟨?_, ?_, ?_⟩
  all_goals
    intro s s' name document taken
    unfold take at taken
    split at taken
    case h_16 =>
      cases taken
      rw [if_neg (by rintro rfl; simp_all)]
    all_goals
      obtain ⟨part, read, rfl⟩ := ok_of_map taken
      first | exact read | rfl

theorem readFrom_stated {object : SortedMap String Json} {s : Sections}
    (read : ofMembers object.entries = .ok s) :
    s.stated.ReadFrom (object.get? "overflow")
      ⟨object.get? "reversed_mapping", object.get? "modifications"⟩ := by
  obtain ⟨inside, mapping, modifications⟩ := sets_stated
  have entries := SortedMap.ofList_entries object
  exact {
    inside := entries ▸ inside.fields read
    mapping := entries ▸ mapping.fields read
    modifications := entries ▸ modifications.fields read }

/-- What stands under the three keys is taken whatever the other sections are. -/
theorem exists_take_withStated {name : String} {document : Json}
    (known : isOverflowKey name = true)
    (fits : Json.fits Policy.sections (name, document) = true) (o : Stated) :
    ∃ o', ∀ s : Sections, take (s.withStated o) name document = .ok (s.withStated o') := by
  rw [← isOk_take empty] at fits
  obtain rfl | rfl | rfl := isOverflowKey_iff.1 known
  · obtain ⟨inside, read⟩ := exists_ok_of_isOk ((isOk_map _).symm.trans fits)
    refine ⟨{ o with inside }, fun s => ?_⟩
    simp only [take, read]
    rfl
  · obtain ⟨mapping, read⟩ := exists_ok_of_isOk ((isOk_map _).symm.trans fits)
    refine ⟨{ o with mapping }, fun s => ?_⟩
    simp only [take, read]
    rfl
  · obtain ⟨modifications, read⟩ := exists_ok_of_isOk ((isOk_map _).symm.trans fits)
    refine ⟨{ o with modifications }, fun s => ?_⟩
    simp only [take, read]
    rfl

theorem exists_fields_withStated {members : List (String × Json)}
    (fits : ∀ m ∈ members, isOverflowKey m.1 = true → Json.fits Policy.sections m = true)
    (o : Stated) :
    ∃ o', ∀ s : Sections, fields take (s.withStated o) members =
      Except.map (·.withStated o')
        (fields take s (members.filter fun m => !isOverflowKey m.1)) := by
  induction members generalizing o with
  | nil => exact ⟨o, fun s => rfl⟩
  | cons member members induction =>
      obtain ⟨first, rest⟩ := List.forall_mem_cons.1 fits
      cases known : isOverflowKey member.1 with
      | true =>
          obtain ⟨o₁, taken⟩ := exists_take_withStated known (first known) o
          obtain ⟨o', others⟩ := induction rest o₁
          refine ⟨o', fun s => ?_⟩
          rw [fields, taken, List.filter_cons, known]
          exact others s
      | false =>
          obtain ⟨o', others⟩ := induction rest o
          refine ⟨o', fun s => ?_⟩
          rw [fields, take_withStated known, List.filter_cons, known]
          rw [Bool.not_false, if_pos rfl, fields]
          cases take s member.1 member.2 with
          | error cause => rfl
          | ok s => exact others s

end Sections

/-! ### Results -/

/-- The object with these documents under the three keys, and the other sections as they are. -/
def stating (rest : SortedMap String Json) (section? : Option Json) (top : OverflowParts) :
    SortedMap String Json :=
  ((rest.alter "overflow" fun _ => section?).alter "reversed_mapping" fun _ => top.mapping?).alter
    "modifications" fun _ => top.modifications?

section

variable {rest : SortedMap String Json} {section? : Option Json} {top : OverflowParts} {o : Stated}

theorem get?_stating (rest : SortedMap String Json) (section? : Option Json) (top : OverflowParts)
    (name : String) :
    (stating rest section? top).get? name =
      if name = "modifications" then top.modifications?
      else if name = "reversed_mapping" then top.mapping?
      else if name = "overflow" then section? else rest.get? name := by
  rw [stating, SortedMap.get?_alter, SortedMap.get?_alter, SortedMap.get?_alter]

theorem get?_stating_of_other {name : String} (other : Sections.isOverflowKey name = false) :
    (stating rest section? top).get? name = rest.get? name := by
  simp only [Sections.isOverflowKey, Bool.or_eq_false_iff, beq_eq_false_iff_ne] at other
  rw [get?_stating, if_neg other.2, if_neg other.1.2, if_neg other.1.1]

theorem fits_of_readFrom (read : o.ReadFrom section? top) {rest : SortedMap String Json} :
    ∀ m ∈ (stating rest section? top).entries, Sections.isOverflowKey m.1 = true →
      Json.fits Policy.sections m = true := by
  rintro ⟨name, document⟩ listed known
  have found := SortedMap.get?_eq_some_iff.2 listed
  rw [get?_stating] at found
  rw [← Sections.isOk_take .empty]
  obtain rfl | rfl | rfl := Sections.isOverflowKey_iff.1 known
  · have inside := read.inside
    rw [show section? = some document from found] at inside
    exact (isOk_map _).trans (congrArg Except.isOk inside)
  · have mapping := read.mapping
    rw [show top.mapping? = some document from found] at mapping
    exact (isOk_map _).trans (congrArg Except.isOk mapping)
  · have modifications := read.modifications
    rw [show top.modifications? = some document from found] at modifications
    exact (isOk_map _).trans (congrArg Except.isOk modifications)

theorem filter_entries_stating :
    (stating rest section? top).entries.filter (fun m => !Sections.isOverflowKey m.1) =
      (stating rest none .absent).entries := by
  have agree (name : String) (other : (!Sections.isOverflowKey name) = true) :
      (stating rest section? top).get? name = (stating rest none .absent).get? name := by
    rw [Bool.not_eq_true'] at other
    rw [get?_stating_of_other other, get?_stating_of_other other]
  have others := SortedMap.filter_entries_congr (fun name => !Sections.isOverflowKey name) agree
  refine others.trans (List.filter_eq_self.2 fun m listed => ?_)
  have found := SortedMap.get?_eq_some_iff.2 listed
  cases known : Sections.isOverflowKey m.1 with
  | false => rfl
  | true =>
      rw [get?_stating] at found
      obtain same | same | same := Sections.isOverflowKey_iff.1 known <;>
        rw [same] at found <;> cases found

theorem ofMembers_stating (read : o.ReadFrom section? top) (rest : SortedMap String Json) :
    Sections.ofMembers (stating rest section? top).entries =
      Except.map (·.withStated o) (Sections.ofMembers (stating rest none .absent).entries) := by
  obtain ⟨o', apart⟩ := Sections.exists_fields_withStated (fits_of_readFrom read) .nothing
  have whole : Sections.ofMembers (stating rest section? top).entries =
      Except.map (·.withStated o') (Sections.ofMembers (stating rest none .absent).entries) := by
    rw [← filter_entries_stating]
    exact apart .empty
  cases others : Sections.ofMembers (stating rest none .absent).entries with
  | error cause =>
      rw [whole, others]
      rfl
  | ok s =>
      rw [others] at whole
      have stated := Sections.readFrom_stated whole
      rw [get?_stating, get?_stating, get?_stating] at stated
      have same : o' = o := Stated.ReadFrom.unique stated read
      rw [whole, same]

theorem ofJson_stating (read : o.ReadFrom section? top) (rest : SortedMap String Json) :
    Policy.ofJson (.object (stating rest section? top).entries) =
      Except.map (fun p => { p with overflow := o.merged })
        (Policy.ofJson (.object (stating rest none .absent).entries)) := by
  rw [Policy.ofJson, Policy.ofJson, ofMembers_stating read]
  cases Sections.ofMembers (stating rest none .absent).entries with
  | error cause => rfl
  | ok s => exact s.toPolicy_withStated o

end

/-- The documents under the three keys have their shapes. -/
structure IsStatement (section? : Option Json) (top : OverflowParts) : Prop where
  inside : section?.all (Json.isNullOr (Json.isRecord Json.overflowFields)) = true
  mapping : top.mapping?.all (Json.isNullOr Json.isTextsByName) = true
  modifications : top.modifications?.all (Json.isNullOr Json.isModifications) = true

/-- Overflow is read as the union of both places, beside the other sections. It may be moved out of
its section, and repeated outside. -/
structure ParsesAsUnion (rest : SortedMap String Json) (section? : Option Json)
    (top : OverflowParts) : Prop where
  union : ∃ o, OverflowParts.IsUnion (.ofSection? section?) top o ∧
    Policy.ofJson (.object (stating rest section? top).entries) =
      Except.map (fun p => { p with overflow := o })
        (Policy.ofJson (.object (stating rest none .absent).entries))
  moved : Policy.ofJson (.object (stating rest none (.ofSection? section?)).entries) =
    Policy.ofJson (.object (stating rest section? .absent).entries)
  repeated : Policy.ofJson (.object (stating rest section? (.ofSection? section?)).entries) =
    Policy.ofJson (.object (stating rest section? .absent).entries)

/-- What the section lists is read as it is there, and what only the top level lists as it is there.
The result is the same wherever the section stands. -/
theorem parsesAsUnion_of_isStatement {section? : Option Json} {top : OverflowParts}
    (shape : IsStatement section? top) (rest : SortedMap String Json) :
    ParsesAsUnion rest section? top := by
  obtain ⟨inside, nested⟩ := exists_ok_of_isOk
    ((Overflow.accepts_ofJson.nullable.itemOr none section?).trans shape.inside)
  obtain ⟨mapping, sources⟩ := exists_ok_of_isOk
    ((accepts_textsByName.nullable.itemOr none top.mapping?).trans shape.mapping)
  obtain ⟨modifications, tasks⟩ := exists_ok_of_isOk
    ((Overflow.accepts_readModifications.nullable.itemOr none top.modifications?).trans
      shape.modifications)
  have parts := OverflowParts.reads_ofSection? nested
  obtain ⟨mapping', sources', own_sources⟩ := exists_nullable_of_itemOr parts.mapping
  obtain ⟨modifications', tasks', own_tasks⟩ := exists_nullable_of_itemOr parts.modifications
  have outside : top.Say ⟨mapping.getD .empty, modifications.getD .empty⟩ :=
    ⟨get?_of_nullable sources, get?_of_nullable tasks⟩
  have once : (⟨inside, none, none⟩ : Stated).ReadFrom section? .absent := ⟨nested, rfl, rfl⟩
  have out : (⟨none, mapping', modifications'⟩ : Stated).ReadFrom none (.ofSection? section?) :=
    ⟨rfl, sources', tasks'⟩
  have twice : (⟨inside, mapping', modifications'⟩ : Stated).ReadFrom section?
      (.ofSection? section?) := ⟨nested, sources', tasks'⟩
  have same : (⟨mapping'.getD .empty, modifications'.getD .empty⟩ : Overflow) =
      inside.getD .empty := by
    rw [own_sources, own_tasks]
  have whole : (⟨inside, mapping, modifications⟩ : Stated).ReadFrom section? top :=
    ⟨nested, sources, tasks⟩
  refine ⟨⟨_, parts.say.isUnion outside, ofJson_stating whole rest⟩, ?_, ?_⟩
  · have merged : (⟨none, mapping', modifications'⟩ : Stated).merged =
        (⟨inside, none, none⟩ : Stated).merged := by
      simp only [Stated.merged, same]
      exact (Overflow.empty_orElse _).trans (Overflow.orElse_empty _).symm
    rw [ofJson_stating out, ofJson_stating once, merged]
  · have merged : (⟨inside, mapping', modifications'⟩ : Stated).merged =
        (⟨inside, none, none⟩ : Stated).merged := by
      simp only [Stated.merged, same]
      exact (Overflow.orElse_self _).trans (Overflow.orElse_empty _).symm
    rw [ofJson_stating twice, ofJson_stating once, merged]

/-- A section and two parts beside it: both places list sources of `T2_X`, and each has a task of
the workflow `wf`. -/
def listedTwice : Json × OverflowParts :=
  (.object [("modifications", .object [("wf", .object [("/wf/A", .array [.ofStrings ["T2_X"]])])]),
      ("reversed_mapping", .object [("T2_X", .ofStrings ["T1_A"])])],
    { mapping? := some (.object [("T2_X", .ofStrings ["T1_B"]), ("T2_Y", .ofStrings ["T1_B"])])
      modifications? := some (.object [("wf", .object [("/wf/B", .array [])])]) })

theorem parsesAsUnion_listedTwice :
    IsStatement (some listedTwice.1) listedTwice.2 ∧
      ParsesAsUnion .empty (some listedTwice.1) listedTwice.2 := by
  have shape : IsStatement (some listedTwice.1) listedTwice.2 := ⟨by decide, by decide, by decide⟩
  exact ⟨shape, parsesAsUnion_of_isStatement shape .empty⟩

example : (Policy.ofJson (.object (stating .empty (some listedTwice.1) listedTwice.2).entries)).map
      (fun p => (p.overflow.reversedMapping.entries,
        p.overflow.modifications.entries.map fun e => (e.1, e.2.entries))) =
    .ok ([("T2_X", ["T1_A"]), ("T2_Y", ["T1_B"])],
      [("wf", [("/wf/A", ⟨some ["T2_X"], none⟩), ("/wf/B", ⟨none, none⟩)])]) := by
  decide +kernel

end RoutingPolicy

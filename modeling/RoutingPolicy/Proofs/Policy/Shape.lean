import Mathlib.Data.List.Nodup
import RoutingPolicy.Proofs.Policy.Members
import RoutingPolicy.Proofs.Policy.Notation

/-!
# The shape of a policy

Which documents can be read is said here without reading them: a list has items of one shape, an
object members of one shape, and a record the fields that it must have, each of its own shape. A
record is also written as the list of its fields. A reader accepts exactly the documents of its
shape, whatever it makes of them; `Sections.isOk_ofMembers` says it of the policy as a whole.
-/

set_option autoImplicit false

namespace RoutingPolicy

/-! ### Shapes -/

namespace Json

def isText : Json → Bool
  | .string _ => true
  | _ => false

def isListOf (item : Json → Bool) : Json → Bool
  | .array items => items.all item
  | _ => false

def isObjectOf (value : Json → Bool) : Json → Bool
  | .object members => members.all fun m => value m.2
  | _ => false

def isNullOr (shape : Json → Bool) : Json → Bool
  | .null => true
  | document => shape document

def isWholeNumber : Json → Bool
  | .number n => Int64.minValue.toInt ≤ n.whole && n.whole ≤ Int64.maxValue.toInt
  | _ => false

structure Field where
  name : String
  shape : Json → Bool
  optional : Bool

/-- A member may stand in a record: its shape is that of the field it is named after, if any. -/
def Field.admits (f : Field) (member : String × Json) : Bool :=
  member.1 != f.name || f.shape member.2

def fits (fields : List Field) (member : String × Json) : Bool := fields.all (·.admits member)

theorem fits_of_not_mem {fields : List Field} {member : String × Json}
    (unknown : member.1 ∉ fields.map (·.name)) : fits fields member = true := by
  refine List.all_eq_true.2 fun f listed => ?_
  have other : member.1 ≠ f.name := by
    intro same
    exact unknown (same ▸ List.mem_map_of_mem listed)
  rw [Field.admits, bne_iff_ne.2 other, Bool.true_or]

theorem fits_of_mem {fields : List Field} {f : Field} {document : Json}
    (distinct : (fields.map (·.name)).Nodup) (listed : f ∈ fields) :
    fits fields (f.name, document) = f.shape document := by
  have own : f.admits (f.name, document) = f.shape document := by
    rw [Field.admits, bne_self_eq_false, Bool.false_or]
  rw [← own, Bool.eq_iff_iff, fits, List.all_eq_true]
  constructor
  · exact fun all => all f listed
  · intro holds g other
    by_cases same : f.name = g.name
    · rwa [← List.inj_on_of_nodup_map distinct listed other same]
    · rw [Field.admits, bne_iff_ne.2 same, Bool.true_or]

def isComplete (fields : List Field) (members : List (String × Json)) : Bool :=
  fields.all fun f => f.optional || members.any (·.1 == f.name)

/-- The items are the fields in order. Only optional ones may be missing at the end. -/
def areFields : List Field → List Json → Bool
  | [], items => items.isEmpty
  | f :: fields, [] => f.optional && areFields fields []
  | f :: fields, item :: items => f.shape item && areFields fields items

/-- An object with the fields as members, and perhaps others, or the list of the fields. -/
def isRecord (fields : List Field) : Json → Bool
  | .object members => members.all (fits fields) && isComplete fields members
  | .array items => areFields fields items
  | _ => false

def isTexts : Json → Bool := isListOf isText

def isTextsByName : Json → Bool := isObjectOf isTexts

def resizeFields : List Field := [
  ⟨"minCores", isWholeNumber, true⟩,
  ⟨"maxCores", isWholeNumber, true⟩,
  ⟨"memoryPerThread", isWholeNumber, false⟩]

def modificationFields : List Field := [
  ⟨"AddWhitelist", isNullOr isTexts, true⟩,
  ⟨"ReplaceSiteWhitelist", isNullOr isTexts, true⟩]

def isModifications : Json → Bool := isObjectOf (isObjectOf (isRecord modificationFields))

def overflowFields : List Field := [
  ⟨"reversed_mapping", isTextsByName, true⟩,
  ⟨"modifications", isModifications, true⟩]

end Json

def Policy.sections : List Json.Field := [
  ⟨"overflow", Json.isNullOr (Json.isRecord Json.overflowFields), true⟩,
  ⟨"reversed_mapping", Json.isNullOr Json.isTextsByName, true⟩,
  ⟨"modifications", Json.isNullOr Json.isModifications, true⟩,
  ⟨"resizing", Json.isObjectOf (Json.isRecord Json.resizeFields), true⟩,
  ⟨"read", Json.isTextsByName, true⟩,
  ⟨"memory", Json.isTextsByName, true⟩,
  ⟨"time", Json.isTextsByName, true⟩,
  ⟨"slope", Json.isTextsByName, true⟩,
  ⟨"hold", Json.isTextsByName, true⟩,
  ⟨"release", Json.isObjectOf fun _ => true, true⟩,
  ⟨"hold_site", Json.isTexts, true⟩,
  ⟨"release_site", Json.isTexts, true⟩,
  ⟨"highprio", Json.isTexts, true⟩,
  ⟨"speed_drain", Json.isTexts, true⟩,
  ⟨"reset_routing", Json.isTexts, true⟩]

/-! ### What readers accept -/

namespace Shaped

open Json

variable {α β : Type} {value : Json → Shaped α} {shape : Json → Bool}

/-- The documents that can be read are those of the shape. -/
def Accepts (value : Json → Shaped α) (shape : Json → Bool) : Prop :=
  ∀ document, (value document).isOk = shape document

theorem isOk_map {x : Shaped α} (f : α → β) : (x >>= fun a => pure (f a)).isOk = x.isOk := by
  cases x <;> rfl

theorem isOk_bind {x : Shaped α} {next : α → Shaped β} {b : Bool}
    (same : ∀ a, (next a).isOk = b) : (x >>= next).isOk = (x.isOk && b) := by
  cases x with
  | error cause => rfl
  | ok a => exact same a

theorem accepts_string : Accepts string isText := by
  intro document
  cases document <;> rfl

theorem Accepts.items (accepts : Accepts value shape) (documents : List Json) :
    (items value documents).isOk = documents.all shape := by
  induction documents with
  | nil => rfl
  | cons document documents induction =>
      rw [Shaped.items, isOk_bind fun a => isOk_map _, accepts, induction, List.all_cons]

theorem accepts_strings : Accepts strings isTexts := by
  intro document
  cases document with
  | array documents => exact accepts_string.items documents
  | _ => rfl

theorem Accepts.members (accepts : Accepts value shape) (listed : List (String × Json)) :
    (members value listed).isOk = listed.all fun m => shape m.2 := by
  induction listed with
  | nil => rfl
  | cons member listed induction =>
      rw [Shaped.members, isOk_bind fun a => isOk_map _, accepts, induction, List.all_cons]

theorem Accepts.map (accepts : Accepts value shape) : Accepts (map value) (isObjectOf shape) := by
  intro document
  cases document with
  | object listed => exact (isOk_map _).trans (accepts.members listed)
  | _ => rfl

theorem Accepts.nullable (accepts : Accepts value shape) :
    Accepts (nullable value) (isNullOr shape) := by
  intro document
  cases document with
  | null => rfl
  | _ => exact (isOk_map _).trans (accepts _)

theorem Accepts.itemOr (accepts : Accepts value shape) (absent : α) (item? : Option Json) :
    (itemOr absent value item?).isOk = item?.all shape := by
  cases item? with
  | none => rfl
  | some document => exact accepts document

theorem isOk_ite {p : Prop} [Decidable p] (a : α) (cause : Malformation) :
    (if p then pure a else throw cause : Shaped α).isOk = decide p := by
  by_cases holds : p
  · rw [if_pos holds, decide_eq_true holds]
    rfl
  · rw [if_neg holds, decide_eq_false holds]
    rfl

theorem isOk_put {known : List Field} {name : String}
    (distinct : (known.map (·.name)).Nodup) (listed : ∃ f ∈ known, f.name = name ∧ f.shape = shape)
    (accepts : Accepts value shape) (put : α → β) (document : Json) :
    (value document >>= fun a => pure (put a)).isOk = fits known (name, document) := by
  obtain ⟨f, known, rfl, rfl⟩ := listed
  rw [isOk_map, accepts, fits_of_mem distinct known]

theorem isOk_fields {take : α → String → Json → Shaped α} {known : List Field}
    (accepts : ∀ a name document, (take a name document).isOk = fits known (name, document))
    (a : α) (members : List (String × Json)) :
    (fields take a members).isOk = members.all (fits known) := by
  induction members generalizing a with
  | nil => rfl
  | cons member members induction =>
      rw [fields, isOk_bind fun next => induction next, accepts, List.all_cons]

theorem accepts_textsByName : Accepts (map strings) isTextsByName := accepts_strings.map

end Shaped

/-! ### Records -/

open Shaped

theorem accepts_readWholeNumber : Accepts readWholeNumber Json.isWholeNumber := by
  have inRange (i : Int) : (Integer.ofInt? i).isSome =
      (decide (Int64.minValue.toInt ≤ i) && decide (i ≤ Int64.maxValue.toInt)) := by
    rw [Integer.ofInt?, ← Bool.decide_and]
    split
    · next fits => exact (decide_eq_true fits).symm
    · next beyond => exact (decide_eq_false beyond).symm
  intro document
  cases document with
  | number n =>
      rw [Json.isWholeNumber, ← inRange]
      cases n with
      | integer i =>
          rw [readWholeNumber, JsonNumber.whole]
          cases Integer.ofInt? i <;> rfl
      | real negative m =>
          rw [← JsonNumber.readThreshold?_text_real]
          rw [readWholeNumber.eq_def]
          dsimp only
          cases readThreshold? (JsonNumber.real negative m).text <;> rfl
  | _ => rfl

namespace ResizePolicy

open Json

theorem isOk_take (f : Fields) (name : String) (document : Json) :
    (f.take name document).isOk = fits resizeFields (name, document) := by
  have distinct : (resizeFields.map (·.name)).Nodup := by
    decide +kernel
  unfold Fields.take
  split
  case h_1 | h_2 | h_3 =>
    exact isOk_put distinct (by simp [resizeFields]) accepts_readWholeNumber _ document
  case h_4 =>
    have unknown : name ∉ resizeFields.map (·.name) := by
      simp_all [resizeFields]
    exact (fits_of_not_mem unknown).symm

theorem isSome_memoryPerThread {f f' : Fields} {members : List (String × Json)}
    (read : Shaped.fields Fields.take f members = .ok f') :
    f'.memoryPerThread.isSome =
      (f.memoryPerThread.isSome || members.any (·.1 == "memoryPerThread")) := by
  induction members generalizing f with
  | nil =>
      cases read
      rw [List.any_nil, Bool.or_false]
  | cons member members induction =>
      obtain ⟨name, document⟩ := member
      rw [Shaped.fields] at read
      cases taken : f.take name document with
      | error cause =>
          rw [taken] at read
          cases read
      | ok f₁ =>
          rw [taken] at read
          have step : f₁.memoryPerThread.isSome =
              (f.memoryPerThread.isSome || name == "memoryPerThread") := by
            unfold Fields.take at taken
            split at taken
            case h_1 | h_2 =>
              obtain ⟨i, -, same⟩ := ok_of_map taken
              subst same
              exact (Bool.or_false _).symm
            case h_3 =>
              obtain ⟨i, -, same⟩ := ok_of_map taken
              subst same
              exact (Bool.or_true _).symm
            case h_4 fewest most memory =>
              cases taken
              rw [beq_eq_false_iff_ne.2 memory, Bool.or_false]
          rw [induction read, step, List.any_cons, Bool.or_assoc]

theorem accepts_ofJson : Accepts ofJson (isRecord resizeFields) := by
  intro document
  cases document with
  | object members =>
      have accepted := isOk_fields isOk_take ⟨defaultMinCores, defaultMaxCores, none⟩ members
      have complete : isComplete resizeFields members =
          members.any (·.1 == "memoryPerThread") := by
        simp [isComplete, resizeFields]
      rw [isRecord, complete, ← accepted, ofJson]
      cases read : Shaped.fields Fields.take ⟨defaultMinCores, defaultMaxCores, none⟩ members with
      | error cause => rfl
      | ok f =>
          have known : f.memoryPerThread.isSome = members.any (·.1 == "memoryPerThread") :=
            isSome_memoryPerThread read
          rw [← known]
          obtain ⟨min, max, memory⟩ := f
          cases memory <;> rfl
  | array items =>
      have item := accepts_readWholeNumber.itemOr
      have whole : (ofJson (.array items)).isOk = (items[0]?.all isWholeNumber &&
          (items[1]?.all isWholeNumber &&
            (items[2]?.any isWholeNumber && decide (items.length ≤ 3)))) := by
        rw [← item defaultMinCores, ← item defaultMaxCores]
        refine isOk_bind fun min => isOk_bind fun max => ?_
        cases items[2]? with
        | none => rfl
        | some document =>
            exact (isOk_bind fun memory => isOk_ite _ _).trans
              (congrArg (· && _) (accepts_readWholeNumber document))
      rw [whole, isRecord, resizeFields]
      rcases items with _ | ⟨min, _ | ⟨max, _ | ⟨memory, _ | ⟨other, rest⟩⟩⟩⟩ <;>
        simp [areFields]
  | _ => rfl

end ResizePolicy

namespace TaskModification

open Json

theorem accepts_sites : Accepts sites (isNullOr isTexts) := accepts_strings.nullable

theorem isOk_take (m : TaskModification) (name : String) (document : Json) :
    (m.take name document).isOk = fits modificationFields (name, document) := by
  have distinct : (modificationFields.map (·.name)).Nodup := by
    decide +kernel
  unfold take
  split
  case h_1 | h_2 => exact isOk_put distinct (by simp [modificationFields]) accepts_sites _ document
  case h_3 =>
    have unknown : name ∉ modificationFields.map (·.name) := by
      simp_all [modificationFields]
    exact (fits_of_not_mem unknown).symm

theorem accepts_ofJson : Accepts ofJson (isRecord modificationFields) := by
  intro document
  cases document with
  | object members =>
      have complete : isComplete modificationFields members = true := rfl
      rw [isRecord, complete, Bool.and_true]
      exact isOk_fields isOk_take ⟨none, none⟩ members
  | array items =>
      have item := accepts_sites.itemOr
      have whole : (ofJson (.array items)).isOk = (items[0]?.all (isNullOr isTexts) &&
          (items[1]?.all (isNullOr isTexts) && decide (items.length ≤ 2))) := by
        rw [ofJson, isOk_bind fun added => isOk_bind fun replacement => isOk_ite _ _, item, item]
      rw [whole, isRecord, modificationFields]
      rcases items with _ | ⟨added, _ | ⟨replacement, _ | ⟨other, rest⟩⟩⟩ <;> simp [areFields]
  | _ => rfl

end TaskModification

namespace Overflow

open Json

theorem accepts_readModifications : Accepts readModifications isModifications :=
  TaskModification.accepts_ofJson.map.map

theorem isOk_take (o : Overflow) (name : String) (document : Json) :
    (o.take name document).isOk = fits overflowFields (name, document) := by
  have distinct : (overflowFields.map (·.name)).Nodup := by
    decide +kernel
  unfold take
  split
  case h_1 => exact isOk_put distinct (by simp [overflowFields]) accepts_textsByName _ document
  case h_2 =>
    exact isOk_put distinct (by simp [overflowFields]) accepts_readModifications _ document
  case h_3 =>
    have unknown : name ∉ overflowFields.map (·.name) := by
      simp_all [overflowFields]
    exact (fits_of_not_mem unknown).symm

theorem accepts_ofJson : Accepts ofJson (isRecord overflowFields) := by
  intro document
  cases document with
  | object members =>
      have complete : isComplete overflowFields members = true := rfl
      rw [isRecord, complete, Bool.and_true]
      exact isOk_fields isOk_take empty members
  | array items =>
      have mapping := accepts_textsByName.itemOr
      have modifications := accepts_readModifications.itemOr
      have whole : (ofJson (.array items)).isOk = (items[0]?.all isTextsByName &&
          (items[1]?.all isModifications && decide (items.length ≤ 2))) := by
        rw [ofJson, isOk_bind fun mapping => isOk_bind fun modifications => isOk_ite _ _,
          readMapping, mapping, modifications]
      rw [whole, isRecord, overflowFields]
      rcases items with _ | ⟨added, _ | ⟨replacement, _ | ⟨other, rest⟩⟩⟩ <;> simp [areFields]
  | _ => rfl

end Overflow

/-! ### Sections -/

namespace Sections

open Json

theorem accepts_names : Accepts names (isObjectOf fun _ => true) := by
  intro document
  cases document with
  | object members =>
      have all : members.all (fun _ => true) = true := List.all_eq_true.2 fun _ _ => rfl
      rw [isObjectOf, all]
      rfl
  | _ => rfl

/-- The section by that name is known and the document is of its shape, or it is not known. -/
theorem isOk_take (s : Sections) (name : String) (document : Json) :
    (s.take name document).isOk = fits Policy.sections (name, document) := by
  have distinct : (Policy.sections.map (·.name)).Nodup := by
    decide +kernel
  unfold take
  split
  case h_1 =>
    exact isOk_put distinct (by simp [Policy.sections]) Overflow.accepts_ofJson.nullable _ document
  case h_2 =>
    exact isOk_put distinct (by simp [Policy.sections]) accepts_textsByName.nullable _ document
  case h_3 =>
    exact isOk_put distinct (by simp [Policy.sections])
      Overflow.accepts_readModifications.nullable _ document
  case h_4 =>
    exact isOk_put distinct (by simp [Policy.sections]) ResizePolicy.accepts_ofJson.map _ document
  case h_5 | h_6 | h_7 | h_8 | h_9 =>
    exact isOk_put distinct (by simp [Policy.sections]) accepts_textsByName _ document
  case h_10 => exact isOk_put distinct (by simp [Policy.sections]) accepts_names _ document
  case h_11 | h_12 | h_13 | h_14 | h_15 =>
    exact isOk_put distinct (by simp [Policy.sections]) accepts_strings _ document
  case h_16 =>
    have unknown : name ∉ Policy.sections.map (·.name) := by
      simp_all [Policy.sections]
    exact (fits_of_not_mem unknown).symm

theorem isOk_ofMembers (members : List (String × Json)) :
    (ofMembers members).isOk = members.all (fits Policy.sections) :=
  isOk_fields isOk_take empty members

end Sections

end RoutingPolicy

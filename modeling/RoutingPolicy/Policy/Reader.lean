import RoutingPolicy.Ad.JobAd
import RoutingPolicy.Json.Reader
import RoutingPolicy.Policy.Document
import RoutingPolicy.Policy.Error

/-!
# Reading policies

A policy is a JSON object with known sections; other members are ignored. The members of an object
are read in ascending order, and the first one that cannot be read decides the error. Only when all
sections have the right shape are the keys that stand for thresholds looked at. Some objects with
fixed fields may also be written as the list of their fields. The two parts of the section on
overflow may stand at the top level as well; what the section itself says counts first.
-/

set_option autoImplicit false

namespace RoutingPolicy

abbrev Shaped (α : Type) := Except Malformation α

namespace Shaped

variable {α : Type}

def string : Json → Shaped String
  | .string s => .ok s
  | _ => .error .wrongShape

def items (item : Json → Shaped α) : List Json → Shaped (List α)
  | [] => .ok []
  | document :: rest => do
    let a ← item document
    return a :: (← items item rest)

def strings : Json → Shaped (List String)
  | .array documents => items string documents
  | _ => .error .wrongShape

def members (value : Json → Shaped α) : List (String × Json) → Shaped (List (String × α))
  | [] => .ok []
  | (name, document) :: rest => do
    let a ← value document
    return (name, a) :: (← members value rest)

def map (value : Json → Shaped α) : Json → Shaped (SortedMap String α)
  | .object listed => return .ofList (← members value listed)
  | _ => .error .wrongShape

def nullable (value : Json → Shaped α) : Json → Shaped (Option α)
  | .null => .ok none
  | document => return some (← value document)

def fields (take : α → String → Json → Shaped α) (init : α) : List (String × Json) → Shaped α
  | [] => .ok init
  | (name, document) :: rest => do
    fields take (← take init name document) rest

/-- An item of a list that stands for a field; a missing one has the value `absent`. -/
def itemOr (absent : α) (value : Json → Shaped α) : Option Json → Shaped α
  | some document => value document
  | none => .ok absent

end Shaped

/-! ### Parts of sections -/

/-- A number as an integer of 64 bits, without its fraction. -/
def readWholeNumber : Json → Shaped Int64
  | .number (.integer i) => match Integer.ofInt? i with
    | some i => .ok i
    | none => .error (.resizingRange (JsonNumber.integer i).text)
  | .number n => match readThreshold? n.text with
    | some i => .ok i
    | none => .error (.resizingRange n.text)
  | _ => .error .wrongShape

namespace ResizePolicy

def defaultMinCores : Int64 := 3

def defaultMaxCores : Int64 := 8

/-- The fields of a resize policy as far as they are read. -/
structure Fields where
  minCores : Int64
  maxCores : Int64
  /-- The memory for each further core, once it is read. -/
  memoryPerThread : Option Int64

def Fields.take (f : Fields) (name : String) (document : Json) : Shaped Fields :=
  match name with
  | "minCores" => return { f with minCores := ← readWholeNumber document }
  | "maxCores" => return { f with maxCores := ← readWholeNumber document }
  | "memoryPerThread" => return { f with memoryPerThread := some (← readWholeNumber document) }
  | _ => .ok f

/-- A resize policy, as an object or as a list of its fields. -/
def ofJson : Json → Shaped ResizePolicy
  | .object members => do
    let f ← Shaped.fields Fields.take ⟨defaultMinCores, defaultMaxCores, none⟩ members
    match f.memoryPerThread with
    | some memory => return ⟨f.minCores, f.maxCores, memory⟩
    | none => throw (.missingField "memoryPerThread")
  | .array items => do
    let min ← Shaped.itemOr defaultMinCores readWholeNumber items[0]?
    let max ← Shaped.itemOr defaultMaxCores readWholeNumber items[1]?
    match items[2]? with
    | none => throw .wrongShape
    | some document =>
      let memory ← readWholeNumber document
      if items.length ≤ 3 then return ⟨min, max, memory⟩ else throw .wrongShape
  | _ => .error .wrongShape

end ResizePolicy

namespace TaskModification

def sites : Json → Shaped (Option (List String)) := Shaped.nullable Shaped.strings

def take (m : TaskModification) (name : String) (document : Json) : Shaped TaskModification :=
  match name with
  | "AddWhitelist" => return { m with added := ← sites document }
  | "ReplaceSiteWhitelist" => return { m with replacement := ← sites document }
  | _ => .ok m

def ofJson : Json → Shaped TaskModification
  | .object members => Shaped.fields take ⟨none, none⟩ members
  | .array items => do
    let added ← Shaped.itemOr none sites items[0]?
    let replacement ← Shaped.itemOr none sites items[1]?
    if items.length ≤ 2 then return ⟨added, replacement⟩ else throw .wrongShape
  | _ => .error .wrongShape

end TaskModification

namespace Overflow

def readMapping : Json → Shaped SourcesByDestination := Shaped.map Shaped.strings

def readModifications : Json → Shaped Modifications :=
  Shaped.map (Shaped.map TaskModification.ofJson)

def take (o : Overflow) (name : String) (document : Json) : Shaped Overflow :=
  match name with
  | "reversed_mapping" => return { o with reversedMapping := ← readMapping document }
  | "modifications" => return { o with modifications := ← readModifications document }
  | _ => .ok o

def ofJson : Json → Shaped Overflow
  | .object members => Shaped.fields take empty members
  | .array items => do
    let mapping ← Shaped.itemOr .empty readMapping items[0]?
    let modifications ← Shaped.itemOr .empty readModifications items[1]?
    if items.length ≤ 2 then return ⟨mapping, modifications⟩ else throw .wrongShape
  | _ => .error .wrongShape

end Overflow

/-! ### The document -/

abbrev TasksByKey := SortedMap String (List String)

/-- The sections of a policy, as they are written. The keys of four of them are still texts, and
what is said of overflow at the top level stands apart. -/
structure Sections where
  overflow : Option Overflow
  reversedMapping : Option SourcesByDestination
  modifications : Option Modifications
  resizing : SortedMap String ResizePolicy
  read : TasksByKey
  memory : TasksByKey
  time : TasksByKey
  slope : TasksByKey
  hold : TasksByKey
  release : SortedSet String
  holdSite : List String
  releaseSite : List String
  highprio : List String
  speedDrain : List String
  resetRouting : List String

namespace Sections

def empty : Sections :=
  ⟨none, none, none, .empty, .empty, .empty, .empty, .empty, .empty, .empty, [], [], [], [], []⟩

def names : Json → Shaped (SortedSet String)
  | .object members => .ok (.ofList (members.map (·.1)))
  | _ => .error .wrongShape

def take (s : Sections) (name : String) (document : Json) : Shaped Sections :=
  match name with
  | "overflow" => return { s with overflow := ← Shaped.nullable Overflow.ofJson document }
  | "reversed_mapping" =>
    return { s with reversedMapping := ← Shaped.nullable Overflow.readMapping document }
  | "modifications" =>
    return { s with modifications := ← Shaped.nullable Overflow.readModifications document }
  | "resizing" => return { s with resizing := ← Shaped.map ResizePolicy.ofJson document }
  | "read" => return { s with read := ← Shaped.map Shaped.strings document }
  | "memory" => return { s with memory := ← Shaped.map Shaped.strings document }
  | "time" => return { s with time := ← Shaped.map Shaped.strings document }
  | "slope" => return { s with slope := ← Shaped.map Shaped.strings document }
  | "hold" => return { s with hold := ← Shaped.map Shaped.strings document }
  | "release" => return { s with release := ← names document }
  | "hold_site" => return { s with holdSite := ← Shaped.strings document }
  | "release_site" => return { s with releaseSite := ← Shaped.strings document }
  | "highprio" => return { s with highprio := ← Shaped.strings document }
  | "speed_drain" => return { s with speedDrain := ← Shaped.strings document }
  | "reset_routing" => return { s with resetRouting := ← Shaped.strings document }
  | _ => .ok s

def ofMembers (members : List (String × Json)) : Shaped Sections := Shaped.fields take empty members

/-- What is said of overflow, in the section and at the top level. -/
def mergedOverflow (s : Sections) : Overflow :=
  (s.overflow.getD .empty).orElse ⟨s.reversedMapping.getD .empty, s.modifications.getD .empty⟩

def thresholds (category : String) (tasks : TasksByKey) : Except PolicyError ThresholdMap :=
  (ThresholdMap.ofSection tasks).mapError (.invalidThreshold category)

def toPolicy (s : Sections) : Except PolicyError Policy := do
  let read ← thresholds "read" s.read
  let memory ← thresholds "memory" s.memory
  let time ← thresholds "time" s.time
  let slope ← thresholds "slope" s.slope
  return {
    overflow := s.mergedOverflow
    resizing := s.resizing
    read, memory, time, slope
    hold := s.hold
    release := s.release
    holdSite := s.holdSite
    releaseSite := s.releaseSite
    highprio := s.highprio
    speedDrain := s.speedDrain
    resetRouting := s.resetRouting }

end Sections

namespace Policy

def ofJson : Json → Except PolicyError Policy
  | .object members =>
    match Sections.ofMembers members with
    | .ok sections => sections.toPolicy
    | .error cause => .error (.malformed cause)
  | document => .error (.notAnObject document.kind)

def read? (text : String) : Except PolicyError Policy :=
  match Json.read? text with
  | some document => ofJson document
  | none => .error (.malformed .notJson)

end Policy

end RoutingPolicy

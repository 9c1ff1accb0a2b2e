import RoutingPolicy.Emit.Format
import RoutingPolicy.Policy.Reader
import RoutingPolicy.Proofs.Compile.Rearrangement
import RoutingPolicy.Proofs.Policy.Members

/-!
# Policies that differ in how sets are listed

Some lists in a policy stand for sets. `Json.setwisePolicy` puts each of them in order, so two
documents agree after it exactly when they differ in nothing but the order and repetition of the
entries of these lists and, where sites and requests are listed, in the blanks around them. Reading
commutes with this step section by section, up to the order of tasks under a threshold, and what is
left of such a policy for its rules is the same. So the rules are the same, down to their order.
-/

namespace RoutingPolicy

set_option autoImplicit false

/-- What follows on results that are the same under `f` is the same under `g`, if it does not tell
such results apart. -/
theorem Except.map_bind_congr {ε α β γ δ : Type} {f : α → β} {g : γ → δ} {x y : Except ε α}
    {next next' : α → Except ε γ} (same : Except.map f x = Except.map f y)
    (follows : ∀ a b, f a = f b → Except.map g (next a) = Except.map g (next' b)) :
    Except.map g (x.bind next) = Except.map g (y.bind next') := by
  cases x with
  | error cause =>
      cases y with
      | error other => exact congrArg Except.error (Except.error.inj same)
      | ok b => cases same
  | ok a =>
      cases y with
      | error other => cases same
      | ok b => exact follows a b (Except.ok.inj same)

/-! ### Documents -/

namespace Json

def mapTexts (f : List String → List String) (document : Json) : Json :=
  match Shaped.strings document with
  | .ok texts => .ofStrings (f texts)
  | .error _ => document

def mapMembers (f : String → Json → Json) : Json → Json
  | .object members => .object (members.map fun (name, document) => (name, f name document))
  | document => document

def setwiseModificationMember : String → Json → Json
  | "AddWhitelist" => mapTexts asTrimmedSet
  | _ => id

def setwiseModification : Json → Json
  | .array (added :: rest) => .array (mapTexts asTrimmedSet added :: rest)
  | document => document.mapMembers setwiseModificationMember

def setwiseModifications : Json → Json :=
  mapMembers fun _ => mapMembers fun _ => setwiseModification

def setwiseMapping : Json → Json := mapMembers fun _ => mapTexts asTrimmedSet

def setwiseOverflowMember : String → Json → Json
  | "reversed_mapping" => setwiseMapping
  | "modifications" => setwiseModifications
  | _ => id

def setwiseOverflow : Json → Json
  | .array [mapping] => .array [setwiseMapping mapping]
  | .array (mapping :: modifications :: rest) =>
      .array (setwiseMapping mapping :: setwiseModifications modifications :: rest)
  | document => document.mapMembers setwiseOverflowMember

def setwiseThresholds : Json → Json := mapMembers fun _ => mapTexts asSet

def setwisePolicyMember : String → Json → Json
  | "overflow" => setwiseOverflow
  | "reversed_mapping" => setwiseMapping
  | "modifications" => setwiseModifications
  | "read" => setwiseThresholds
  | "memory" => setwiseThresholds
  | "time" => setwiseThresholds
  | "slope" => setwiseThresholds
  | "highprio" => mapTexts asTrimmedSet
  | _ => id

/-- The policy with every list as a set that stands for one: of tasks under thresholds, of added
sites, of sources and of requests of high priority. -/
def setwisePolicy : Json → Json := mapMembers setwisePolicyMember

theorem ne_null_mapTexts {f : List String → List String} {document : Json}
    (other : document ≠ null) : mapTexts f document ≠ null := by
  rw [mapTexts]
  cases Shaped.strings document with
  | ok texts => simp [ofStrings]
  | error cause => exact other

theorem ne_null_mapMembers {f : String → Json → Json} {document : Json} (other : document ≠ null) :
    mapMembers f document ≠ null := by
  cases document <;> simp_all [mapMembers]

theorem ne_null_setwiseOverflow {document : Json} (other : document ≠ null) :
    setwiseOverflow document ≠ null := by
  rw [setwiseOverflow.eq_def]
  split
  · exact Json.noConfusion
  · exact Json.noConfusion
  · exact ne_null_mapMembers other

end Json

/-! ### Reading -/

namespace Shaped

open Json

variable {α : Type} {value : Json → Shaped α} {f : Json → Json} {g : α → α}

theorem strings_ofStrings (texts : List String) : strings (ofStrings texts) = .ok texts := by
  have read : items string (texts.map Json.string) = .ok texts := by
    induction texts with
    | nil => rfl
    | cons text texts induction =>
        rw [List.map_cons, items, induction]
        rfl
  exact read

theorem strings_mapTexts (f : List String → List String) (document : Json) :
    strings (mapTexts f document) = Except.map f (strings document) := by
  rw [mapTexts]
  cases read : strings document with
  | ok texts => exact strings_ofStrings (f texts)
  | error cause => exact read

theorem map_mapMembers (commutes : ∀ document, value (f document) = Except.map g (value document))
    (document : Json) :
    map value (mapMembers (fun _ => f) document) =
      Except.map (SortedMap.mapValues g) (map value document) := by
  have listed (members : List (String × Json)) :
      Shaped.members value (members.map fun (name, document) => (name, f document)) =
        Except.map (List.map fun e => (e.1, g e.2)) (Shaped.members value members) := by
    induction members with
    | nil => rfl
    | cons member members induction =>
        rw [List.map_cons, Shaped.members, Shaped.members, commutes, induction]
        cases value member.2 with
        | error cause => rfl
        | ok a => cases Shaped.members value members <;> rfl
  cases document with
  | object members =>
      rw [mapMembers, map, map, listed]
      cases Shaped.members value members with
      | error cause => rfl
      | ok pairs => exact congrArg Except.ok (SortedMap.mapValues_ofList pairs).symm
  | _ => rfl

theorem nullable_map (commutes : ∀ document, value (f document) = Except.map g (value document))
    (null : f .null = .null) (other : ∀ {document}, document ≠ .null → f document ≠ .null)
    (document : Json) :
    nullable value (f document) = Except.map (Option.map g) (nullable value document) := by
  by_cases absent : document = .null
  · rw [absent, null]
    rfl
  · rw [nullable_of_ne_null absent, nullable_of_ne_null (other absent), commutes]
    cases value document <;> rfl

theorem itemOr_some (absent : α) (document : Json) :
    itemOr absent value (some document) = value document := rfl

theorem fields_map {take : α → String → Json → Shaped α} {f : String → Json → Json}
    (commutes : ∀ a name document,
      take (g a) name (f name document) = Except.map g (take a name document))
    (a : α) (members : List (String × Json)) :
    fields take (g a) (members.map fun (name, document) => (name, f name document)) =
      Except.map g (fields take a members) := by
  induction members generalizing a with
  | nil => rfl
  | cons member members induction =>
      rw [List.map_cons, fields, fields, commutes]
      cases take a member.1 member.2 with
      | error cause => rfl
      | ok a => exact induction a

end Shaped

/-! ### Sections -/

namespace TaskModification

theorem sites_mapTexts (f : List String → List String) (document : Json) :
    sites (document.mapTexts f) = Except.map (Option.map f) (sites document) :=
  Shaped.nullable_map (Shaped.strings_mapTexts f) rfl Json.ne_null_mapTexts document

theorem take_setwise (m : TaskModification) (name : String) (document : Json) :
    take m.setwise name (Json.setwiseModificationMember name document) =
      Except.map setwise (take m name document) := by
  unfold take Json.setwiseModificationMember
  split
  · exact Shaped.bind_pure_map (sites_mapTexts asTrimmedSet document) fun _ => rfl
  · exact Shaped.bind_pure_id (sites document) fun _ => rfl
  · rfl

theorem ofJson_setwise (document : Json) :
    ofJson document.setwiseModification = Except.map setwise (ofJson document) := by
  cases document with
  | object members => exact Shaped.fields_map take_setwise ⟨none, none⟩ members
  | array items =>
      cases items with
      | nil => rfl
      | cons added rest =>
          simp only [Json.setwiseModification, ofJson, List.getElem?_cons_zero,
            List.getElem?_cons_succ, Shaped.itemOr_some, sites_mapTexts, List.length_cons]
          cases sites added with
          | error cause => rfl
          | ok added =>
              cases Shaped.itemOr none sites rest[0]? with
              | error cause => rfl
              | ok replacement =>
                  change (if _ then _ else _) = Except.map _ (if _ then _ else _)
                  split <;> rfl
  | _ => rfl

end TaskModification

namespace Overflow

theorem readMapping_setwise (document : Json) :
    readMapping document.setwiseMapping = Except.map setwiseMapping (readMapping document) :=
  Shaped.map_mapMembers (Shaped.strings_mapTexts asTrimmedSet) document

theorem readModifications_setwise (document : Json) :
    readModifications document.setwiseModifications =
      Except.map setwiseModifications (readModifications document) :=
  Shaped.map_mapMembers (Shaped.map_mapMembers TaskModification.ofJson_setwise) document

theorem take_setwise (o : Overflow) (name : String) (document : Json) :
    take o.setwise name (Json.setwiseOverflowMember name document) =
      Except.map setwise (take o name document) := by
  unfold take Json.setwiseOverflowMember
  split
  · exact Shaped.bind_pure_map (readMapping_setwise document) fun _ => rfl
  · exact Shaped.bind_pure_map (readModifications_setwise document) fun _ => rfl
  · rfl

theorem ofJson_setwise (document : Json) :
    ofJson document.setwiseOverflow = Except.map setwise (ofJson document) := by
  cases document with
  | object members => exact Shaped.fields_map take_setwise empty members
  | array items =>
      cases items with
      | nil => rfl
      | cons mapping items =>
          cases items with
          | nil =>
              simp only [Json.setwiseOverflow, ofJson, List.getElem?_cons_zero,
                Shaped.itemOr_some, readMapping_setwise]
              cases readMapping mapping <;> rfl
          | cons modifications rest =>
              simp only [Json.setwiseOverflow, ofJson, List.getElem?_cons_zero,
                List.getElem?_cons_succ, Shaped.itemOr_some, readMapping_setwise,
                readModifications_setwise, List.length_cons]
              cases readMapping mapping with
              | error cause => rfl
              | ok mapping =>
                  cases readModifications modifications with
                  | error cause => rfl
                  | ok modifications =>
                      change (if _ then _ else _) = Except.map _ (if _ then _ else _)
                      split <;> rfl
  | _ => rfl

end Overflow

namespace Sections

def setwise (s : Sections) : Sections :=
  { s with
    overflow := s.overflow.map Overflow.setwise
    reversedMapping := s.reversedMapping.map Overflow.setwiseMapping
    modifications := s.modifications.map Overflow.setwiseModifications
    read := s.read.mapValues asSet
    memory := s.memory.mapValues asSet
    time := s.time.mapValues asSet
    slope := s.slope.mapValues asSet
    highprio := asTrimmedSet s.highprio }

theorem map_strings_setwise (document : Json) :
    Shaped.map Shaped.strings document.setwiseThresholds =
      Except.map (SortedMap.mapValues asSet) (Shaped.map Shaped.strings document) :=
  Shaped.map_mapMembers (Shaped.strings_mapTexts asSet) document

theorem take_setwise (s : Sections) (name : String) (document : Json) :
    take s.setwise name (Json.setwisePolicyMember name document) =
      Except.map setwise (take s name document) := by
  have overflow := Shaped.nullable_map Overflow.ofJson_setwise rfl Json.ne_null_setwiseOverflow
    document
  have mapping := Shaped.nullable_map Overflow.readMapping_setwise rfl Json.ne_null_mapMembers
    document
  have modifications := Shaped.nullable_map Overflow.readModifications_setwise rfl
    Json.ne_null_mapMembers document
  have requests := Shaped.strings_mapTexts asTrimmedSet document
  unfold take Json.setwisePolicyMember
  split
  · exact Shaped.bind_pure_map overflow fun _ => rfl
  · exact Shaped.bind_pure_map mapping fun _ => rfl
  · exact Shaped.bind_pure_map modifications fun _ => rfl
  · exact Shaped.bind_pure_id (Shaped.map ResizePolicy.ofJson document) fun _ => rfl
  · exact Shaped.bind_pure_map (map_strings_setwise document) fun _ => rfl
  · exact Shaped.bind_pure_map (map_strings_setwise document) fun _ => rfl
  · exact Shaped.bind_pure_map (map_strings_setwise document) fun _ => rfl
  · exact Shaped.bind_pure_map (map_strings_setwise document) fun _ => rfl
  · exact Shaped.bind_pure_id (Shaped.map Shaped.strings document) fun _ => rfl
  · exact Shaped.bind_pure_id (names document) fun _ => rfl
  · exact Shaped.bind_pure_id (Shaped.strings document) fun _ => rfl
  · exact Shaped.bind_pure_id (Shaped.strings document) fun _ => rfl
  · exact Shaped.bind_pure_map requests fun _ => rfl
  · exact Shaped.bind_pure_id (Shaped.strings document) fun _ => rfl
  · exact Shaped.bind_pure_id (Shaped.strings document) fun _ => rfl
  · rfl

theorem ofMembers_setwise (members : List (String × Json)) :
    ofMembers (members.map fun (name, document) => (name, Json.setwisePolicyMember name document)) =
      Except.map setwise (ofMembers members) :=
  Shaped.fields_map take_setwise empty members

theorem mergedOverflow_setwise (s : Sections) :
    s.setwise.mergedOverflow = s.mergedOverflow.setwise := by
  rw [mergedOverflow, mergedOverflow, Overflow.setwise_orElse, setwise]
  congr 1
  · cases s.overflow <;> rfl
  · rw [Overflow.setwise]
    congr 1
    · cases s.reversedMapping <;> rfl
    · cases s.modifications <;> rfl

theorem taskSets_thresholds (category : String) (tasks : TasksByKey) :
    Except.map ThresholdMap.taskSets (thresholds category (tasks.mapValues asSet)) =
      Except.map ThresholdMap.taskSets (thresholds category tasks) := by
  have sets := ThresholdMap.taskSets_ofSection tasks
  rw [thresholds, thresholds]
  cases left : ThresholdMap.ofSection (tasks.mapValues asSet) <;>
    cases right : ThresholdMap.ofSection tasks <;> rw [left, right] at sets
  · exact congrArg Except.error (congrArg _ (Except.error.inj sets))
  · cases sets
  · cases sets
  · exact congrArg Except.ok (Except.ok.inj sets)

def policyWith (s : Sections) (read memory time slope : ThresholdMap) : Policy where
  overflow := s.mergedOverflow
  resizing := s.resizing
  read := read
  memory := memory
  time := time
  slope := slope
  hold := s.hold
  release := s.release
  holdSite := s.holdSite
  releaseSite := s.releaseSite
  highprio := s.highprio
  speedDrain := s.speedDrain
  resetRouting := s.resetRouting

theorem toPolicy_eq (s : Sections) :
    s.toPolicy = (thresholds "read" s.read).bind fun read =>
      (thresholds "memory" s.memory).bind fun memory =>
        (thresholds "time" s.time).bind fun time =>
          (thresholds "slope" s.slope).bind fun slope =>
            .ok (s.policyWith read memory time slope) := rfl

theorem content_policyWith_setwise (s : Sections)
    {read read' memory memory' time time' slope slope' : ThresholdMap}
    (reads : read.taskSets = read'.taskSets) (memories : memory.taskSets = memory'.taskSets)
    (times : time.taskSets = time'.taskSets) (slopes : slope.taskSets = slope'.taskSets) :
    (s.setwise.policyWith read memory time slope).content =
      (s.policyWith read' memory' time' slope').content := by
  have listings : s.setwise.mergedOverflow.contents = s.mergedOverflow.contents := by
    rw [mergedOverflow_setwise, Overflow.contents_setwise]
  have destinations : s.setwise.mergedOverflow.destinations = s.mergedOverflow.destinations := by
    rw [mergedOverflow_setwise, Overflow.destinations_setwise]
  have requests : SortedSet.ofList (Text.nonblank s.setwise.highprio) =
      SortedSet.ofList (Text.nonblank s.highprio) := ofList_nonblank_asTrimmedSet s.highprio
  simp only [policyWith, Policy.content, reads, memories, times, slopes, listings, destinations,
    requests]
  rfl

/-- A policy that is read from lists as sets has the content of the policy as it is written, and
is refused for the same reason. -/
theorem content_toPolicy_setwise (s : Sections) :
    Except.map Policy.content s.setwise.toPolicy = Except.map Policy.content s.toPolicy := by
  rw [toPolicy_eq, toPolicy_eq]
  refine Except.map_bind_congr (taskSets_thresholds "read" s.read) fun read read' reads => ?_
  refine Except.map_bind_congr (taskSets_thresholds "memory" s.memory)
    fun memory memory' memories => ?_
  refine Except.map_bind_congr (taskSets_thresholds "time" s.time) fun time time' times => ?_
  refine Except.map_bind_congr (taskSets_thresholds "slope" s.slope) fun slope slope' slopes => ?_
  exact congrArg Except.ok (s.content_policyWith_setwise reads memories times slopes)

end Sections

namespace Policy

theorem content_ofJson_setwise (document : Json) :
    Except.map content (ofJson document.setwisePolicy) = Except.map content (ofJson document) := by
  cases document with
  | object members =>
      rw [Json.setwisePolicy, Json.mapMembers, ofJson, ofJson, Sections.ofMembers_setwise]
      cases Sections.ofMembers members with
      | error cause => rfl
      | ok sections => exact sections.content_toPolicy_setwise
  | _ => rfl

theorem exists_of_read? {text : String} {p : Policy} (read : read? text = .ok p) :
    ∃ document, Json.read? text = some document ∧ ofJson document = .ok p := by
  rw [read?] at read
  cases found : Json.read? text with
  | none =>
      rw [found] at read
      cases read
  | some document =>
      rw [found] at read
      exact ⟨document, rfl, read⟩

/-- Policies have the same rules if they differ only in the order and repetition of tasks under
thresholds, of sites that are added to whitelists, of sources and of requests of high priority, and
in the blanks around the last three. So they are written as the same texts and have the same
fingerprint. -/
theorem rules_eq_of_setwise_eq {text text' : String} {p q : Policy}
    (first : read? text = .ok p) (second : read? text' = .ok q)
    (alike : (Json.read? text).map Json.setwisePolicy =
      (Json.read? text').map Json.setwisePolicy) (options : CompileOptions) :
    (p.compile options).rules = (q.compile options).rules ∧
      (∀ format, (p.compile options).rules.render format =
        (q.compile options).rules.render format) ∧
        (p.compile options).rules.fingerprint = (q.compile options).rules.fingerprint := by
  have rules : (p.compile options).rules = (q.compile options).rules := by
    apply rules_compile_congr
    rcases exists_of_read? first with ⟨document, left, first⟩
    rcases exists_of_read? second with ⟨document', right, second⟩
    rw [left, right, Option.map_some, Option.map_some, Option.some.injEq] at alike
    have contents := content_ofJson_setwise document
    rw [alike, content_ofJson_setwise, first, second] at contents
    exact (Except.ok.inj contents).symm
  rw [rules]
  exact ⟨rfl, fun _ => rfl, rfl⟩

def orderedText : String :=
  "\x7b\"memory\":\x7b\"2\":[\"A\",\"B\"]\x7d,\"highprio\":[\"r\",\"s\"]," ++
    "\"modifications\":\x7b\"w\":\x7b\"A\":\x7b" ++
    "\"AddWhitelist\":[\"T1_US_FNAL\",\"T2_CH_CERN\"]\x7d\x7d\x7d\x7d"

/-- The same sets, in another order and spacing and with a task listed twice. -/
def rearrangedText : String :=
  "\x7b\"memory\":\x7b\"2\":[\"B\",\"A\",\"B\"]\x7d,\"highprio\":[\" s\",\"r\"]," ++
    "\"modifications\":\x7b\"w\":\x7b\"A\":\x7b" ++
    "\"AddWhitelist\":[\"T2_CH_CERN\",\" T1_US_FNAL\"]\x7d\x7d\x7d\x7d"

theorem rules_rearrangedText_eq :
    (Json.read? orderedText).map Json.setwisePolicy =
      (Json.read? rearrangedText).map Json.setwisePolicy ∧
      ∃ p q, read? orderedText = .ok p ∧ read? rearrangedText = .ok q ∧
        (p.compile .standard).rules = (q.compile .standard).rules := by
  have alike : (Json.read? orderedText).map Json.setwisePolicy =
      (Json.read? rearrangedText).map Json.setwisePolicy := by cbv
  have read (text : String) (succeeds : (read? text).toOption.isSome = true) :
      ∃ p, read? text = .ok p := by
    cases result : read? text with
    | error cause =>
        rw [result] at succeeds
        cases succeeds
    | ok p => exact ⟨p, rfl⟩
  rcases read orderedText (by decide +kernel) with ⟨p, first⟩
  rcases read rearrangedText (by decide +kernel) with ⟨q, second⟩
  exact ⟨alike, p, q, first, second, (rules_eq_of_setwise_eq first second alike .standard).1⟩

end Policy

end RoutingPolicy

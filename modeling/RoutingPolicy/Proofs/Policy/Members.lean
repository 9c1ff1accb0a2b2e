import RoutingPolicy.Policy.Reader
import RoutingPolicy.Proofs.Collections.Lookup

/-!
# Objects member by member

Fields are taken in the order of the members, each into its place. So a place has what the last
member by its name says, and members that change nothing may be left out. A map that is read from an
object looks up what the object has under the name.
-/

set_option autoImplicit false

namespace RoutingPolicy

namespace Json

/-- What an object has under a name; of members with one name the last counts. -/
def member? (name : String) : Json → Option Json
  | .object members => (SortedMap.ofList members).get? name
  | _ => none

def memberNames : Json → List String
  | .object members => members.map (·.1)
  | _ => []

theorem isSome_member?_iff {document : Json} {name : String} :
    (document.member? name).isSome = true ↔ name ∈ document.memberNames := by
  cases document with
  | object members => rw [member?, memberNames, ← SortedMap.mem_keys_iff, SortedMap.mem_keys_ofList]
  | _ => simp [member?, memberNames]

end Json

namespace Shaped

variable {α β : Type} {take : α → String → Json → Shaped α} {value : Json → Shaped α}

/-! ### One member -/

theorem exists_ok_of_isOk {x : Shaped α} (accepted : x.isOk = true) : ∃ a, x = .ok a := by
  cases x with
  | error cause => cases accepted
  | ok a => exact ⟨a, rfl⟩

theorem ok_of_bind {x : Shaped α} {next : α → Shaped β} {b : β} (read : x >>= next = .ok b) :
    ∃ a, x = .ok a ∧ next a = .ok b := by
  cases x with
  | error cause => cases read
  | ok a => exact ⟨a, rfl, read⟩

theorem ok_of_map {x : Shaped α} {f : α → β} {b : β} (read : x >>= (fun a => pure (f a)) = .ok b) :
    ∃ a, x = .ok a ∧ f a = b := by
  obtain ⟨a, first, made⟩ := ok_of_bind read
  exact ⟨a, first, Except.ok.inj made⟩

theorem nullable_of_ne_null {document : Json} (present : document ≠ .null) :
    nullable value document = (value document >>= fun a => pure (some a)) := by
  cases document with
  | null => exact absurd rfl present
  | _ => rfl

theorem bind_pure_map {g : α → α} {x y : Shaped β} {h : β → β} {put put' : β → α}
    (same : y = Except.map h x) (commutes : ∀ b, put' (h b) = g (put b)) :
    (y >>= fun b => pure (put' b)) = Except.map g (x >>= fun b => pure (put b)) := by
  rw [same]
  cases x with
  | error cause => rfl
  | ok b => exact congrArg Except.ok (commutes b)

theorem bind_pure_id {g : α → α} (x : Shaped β) {put put' : β → α}
    (commutes : ∀ b, put' b = g (put b)) :
    (x >>= fun b => pure (put' b)) = Except.map g (x >>= fun b => pure (put b)) := by
  have unchanged : x = Except.map id x := by
    cases x <;> rfl
  exact bind_pure_map unchanged commutes

/-! ### One member after the other -/

theorem fields_append (a : α) (members more : List (String × Json)) :
    fields take a (members ++ more) = (fields take a members).bind (fields take · more) := by
  induction members generalizing a with
  | nil => rfl
  | cons member members induction =>
      rw [List.cons_append, fields, fields]
      cases take a member.1 member.2 with
      | error cause => rfl
      | ok a => exact induction a

/-- The member by that name gives the part its value, and no other member changes it. -/
def Sets (take : α → String → Json → Shaped α) (own : String) (value : Json → Shaped β)
    (part : α → β) : Prop :=
  ∀ ⦃a a' : α⦄ ⦃name : String⦄ ⦃document : Json⦄, take a name document = .ok a' →
    if name = own then value document = .ok (part a') else part a' = part a

/-- After all members a part is what the last member by its name says, if there is one. -/
theorem Sets.fields {own : String} {value : Json → Shaped β} {part : α → β}
    (sets : Sets take own value part) {a a' : α} {members : List (String × Json)}
    (read : fields take a members = .ok a') :
    itemOr (part a) value ((SortedMap.ofList members).get? own) = .ok (part a') := by
  induction members using List.reverseRecOn generalizing a' with
  | nil =>
      cases read
      rfl
  | append_singleton members member induction =>
      rw [fields_append] at read
      cases before : Shaped.fields take a members with
      | error cause =>
          rw [before] at read
          cases read
      | ok a₁ =>
          have taken : take a₁ member.1 member.2 = .ok a' := by
            rw [before] at read
            exact (bind_pure _).symm.trans read
          have last := sets taken
          rw [SortedMap.ofList_append_singleton, SortedMap.get?_insert]
          by_cases same : own = member.1
          · rw [if_pos same]
            rwa [if_pos same.symm] at last
          · rw [if_neg same]
            rw [if_neg (Ne.symm same)] at last
            rw [last]
            exact induction before

theorem fields_filter (known : String → Bool)
    (passes : ∀ a name document, known name = false → take a name document = .ok a)
    (a : α) (members : List (String × Json)) :
    Shaped.fields take a (members.filter fun m => known m.1) = Shaped.fields take a members := by
  induction members generalizing a with
  | nil => rfl
  | cons member members induction =>
      rw [List.filter_cons, Shaped.fields]
      cases own : known member.1 with
      | true =>
          rw [if_pos rfl, Shaped.fields]
          cases take a member.1 member.2 with
          | error cause => rfl
          | ok a => exact induction a
      | false =>
          rw [if_neg Bool.false_ne_true, passes a member.1 member.2 own]
          exact induction a

/-! ### Maps -/

/-- Reading members one by one keeps two maps in step: what they make, and what they are. -/
theorem get?_of_members {listed : List (String × Json)} {pairs : List (String × α)}
    (read : members value listed = .ok pairs) {made : SortedMap String α}
    {written : SortedMap String Json}
    (same : ∀ k, (made.get? k).map .ok = (written.get? k).map value) (k : String) :
    ((pairs.foldl (fun m e => m.insert e.1 e.2) made).get? k).map .ok =
      ((listed.foldl (fun m e => m.insert e.1 e.2) written).get? k).map value := by
  induction listed generalizing pairs made written with
  | nil =>
      cases read
      exact same k
  | cons member listed induction =>
      rw [members] at read
      cases first : value member.2 with
      | error cause =>
          rw [first] at read
          cases read
      | ok a =>
          rw [first] at read
          obtain ⟨rest, others, rfl⟩ := ok_of_map read
          refine induction others fun k => ?_
          rw [SortedMap.get?_insert, SortedMap.get?_insert]
          split
          · exact congrArg some first.symm
          · exact same k

theorem get?_of_map {document : Json} {m : SortedMap String α}
    (read : map value document = .ok m) (k : String) :
    (m.get? k).map .ok = (document.member? k).map value := by
  cases document with
  | object listed =>
      obtain ⟨pairs, members, rfl⟩ := ok_of_map read
      exact get?_of_members members (fun _ => rfl) k
  | _ => cases read

theorem mem_keys_of_map {document : Json} {m : SortedMap String α}
    (read : map value document = .ok m) (k : String) : k ∈ m.keys ↔ k ∈ document.memberNames := by
  have same := congrArg Option.isSome (get?_of_map read k)
  rw [Option.isSome_map, Option.isSome_map] at same
  rw [SortedMap.mem_keys_iff, same, Json.isSome_member?_iff]

end Shaped

end RoutingPolicy

import RoutingPolicy.Proofs.Ad.History
import RoutingPolicy.Proofs.Ad.Identity
import RoutingPolicy.Proofs.Ad.Stored
import RoutingPolicy.Proofs.Collections.Lookup
import RoutingPolicy.Proofs.Collections.Values

/-!
# Values and ads as documents

A value is what its document stands for, unless error, NaN or an infinity is somewhere in it, which
have no document of their own. An ad is read back from its document if all its attributes have names
and are bound to such values. The document lists them by their names as spelled, which is another
order than that of the ad; but they are different attributes, so the order in which they are bound
does not matter.
-/

set_option autoImplicit false

namespace RoutingPolicy

/-! ### Values -/

namespace Value

/-- Whether a value has a document of its own, as far as its kind tells. -/
def hasDocument : Value → Bool
  | error => false
  | real (.finite ..) => true
  | real _ => false
  | _ => true

/-- What a value becomes when its document is read. -/
def reread (v : Value) : Value := ofJson v.toJson

theorem reread_int (i : Int64) : (int i).reread = int i := by
  rw [reread, toJson, Json.ofInt, ofJson, ofNumber, Integer.ofInt?_eq_some_iff.2 rfl]

theorem reread_list (items : List Value) : (list items).reread = list (items.map reread) := by
  have mapped : ofItems (toItems items) = items.map reread := by
    induction items with
    | nil => rfl
    | cons v items induction => rw [toItems, ofItems, induction, List.map_cons, reread]
  rw [reread, toJson, ofJson, mapped]

theorem reread_record (fields : List (String × Value)) :
    (record fields).reread = record (fields.map fun field => (field.1, field.2.reread)) := by
  have mapped : ofMembers (toMembers fields) =
      fields.map fun field => (field.1, field.2.reread) := by
    induction fields with
    | nil => rfl
    | cons field fields induction => rw [toMembers, ofMembers, induction, List.map_cons, reread]
  rw [reread, toJson, ofJson, mapped]

theorem reread_eq_self_iff {v : Value} : v.reread = v ↔ v.Throughout (·.hasDocument = true) := by
  induction v using byContents with
  | plain v plain =>
      rw [throughout_iff_of_isPlain plain]
      cases v with
      | error => exact iff_of_false nofun nofun
      | int i => exact iff_of_true (reread_int i) rfl
      | real r => cases plain
      | list items => cases plain
      | record fields => cases plain
      | _ => exact iff_of_true rfl rfl
  | real r =>
      rw [throughout_real_iff]
      cases r with
      | finite negative m => exact iff_of_true rfl rfl
      | _ => exact iff_of_false nofun nofun
  | list items induction =>
      rw [reread_list, list.injEq, map_eq_self_iff, forall₂_congr induction, throughout_list_iff]
      exact (and_iff_right rfl).symm
  | record fields induction =>
      have inside : ∀ field ∈ fields,
          (field.1, field.2.reread) = field ↔ field.2.Throughout (·.hasDocument = true) := by
        intro field listed
        rw [← induction field listed, Prod.ext_iff]
        exact and_iff_right rfl
      rw [reread_record, record.injEq, map_eq_self_iff, forall₂_congr inside, throughout_record_iff]
      exact (and_iff_right rfl).symm

example : (record [("Sites", list [error, int 1])]).reread =
    record [("Sites", list [undefined, int 1])] := by
  rfl

end Value

/-! ### Ads -/

namespace JobAd

def Binding.reread (b : Binding) : Binding := ⟨b.name, .lit (.ofJson (Binding.toJson b))⟩

theorem Binding.reread_eq_self_iff {b : Binding} :
    Binding.reread b = b ↔ ∃ v, b.expr = .lit v ∧ v.Throughout (·.hasDocument = true) := by
  obtain ⟨name, e⟩ := b
  cases e with
  | lit v =>
      have read : Binding.reread ⟨name, .lit v⟩ = ⟨name, .lit v.reread⟩ := rfl
      simp only [read, Binding.mk.injEq, Expr.lit.injEq, true_and, exists_eq_left',
        Value.reread_eq_self_iff]
  | _ => exact iff_of_false nofun nofun

def reread (ad : JobAd) : JobAd where
  entries := ad.entries.mapValues Binding.reread
  keyed := by
    intro entry member
    rw [SortedMap.entries_mapValues] at member
    obtain ⟨original, listed, rfl⟩ := List.mem_map.1 member
    exact ad.keyed original listed

theorem eq_of_entries_eq {ad ad' : JobAd} (same : ad.entries = ad'.entries) : ad = ad' := by
  cases ad
  cases ad'
  cases same
  rfl

theorem reread_eq_self_iff {ad : JobAd} :
    ad.reread = ad ↔ ∀ b ∈ ad.toList, Binding.reread b = b := by
  have entries : ad.reread = ad ↔ ad.entries.mapValues Binding.reread = ad.entries :=
    ⟨congrArg JobAd.entries, fun same => eq_of_entries_eq same⟩
  rw [entries, SortedMap.mapValues_eq_self_iff, toList]

def memberOf (b : Binding) : String × Json := (b.name, Binding.toJson b)

def entryOf (member : String × Json) : String × Binding :=
  (Text.foldCase member.1, ⟨member.1, .lit (.ofJson member.2)⟩)

/-- The members of the document of an ad, in the order of the names as spelled. -/
def members (ad : JobAd) : List (String × Json) :=
  (SortedMap.ofList (ad.toList.map memberOf)).entries

theorem toJson_eq (ad : JobAd) : ad.toJson = .object ad.members := rfl

theorem members_perm (ad : JobAd) : ad.members.Perm (ad.toList.map memberOf) := by
  refine SortedMap.entries_ofList_perm ?_
  rw [List.map_map, List.nodup_iff_pairwise_ne, List.pairwise_map]
  refine ad.pairwise_toList.imp fun {a b} smaller same => ?_
  have spelled : a.name = b.name := same
  rw [spelled] at smaller
  exact String.lt_irrefl _ smaller

theorem entries_assignMembers (members : List (String × Json)) :
    (assignMembers members empty).entries = SortedMap.ofList (members.map entryOf) := by
  rw [assignMembers, SortedMap.ofList, List.foldl_map]
  exact (List.foldl_hom JobAd.entries fun ad member => rfl).symm

theorem map_entryOf_memberOf (ad : JobAd) :
    (ad.toList.map memberOf).map entryOf = ad.reread.entries.entries := by
  rw [reread, SortedMap.entries_mapValues, toList, SortedMap.values, List.map_map, List.map_map]
  refine List.map_congr_left fun entry listed => ?_
  rw [ad.keyed entry listed]
  rfl

theorem assignMembers_members (ad : JobAd) : assignMembers ad.members empty = ad.reread := by
  -- The members come in another order than the entries; as maps they are the same.
  have permuted := ad.members_perm.map entryOf
  rw [map_entryOf_memberOf] at permuted
  have same := SortedMap.ofList_eq_of_perm ad.reread.entries.nodup_keys permuted.symm
  refine eq_of_entries_eq ?_
  rw [entries_assignMembers, ← same, SortedMap.ofList_entries]

theorem ofJson_toJson_eq_ok_iff {ad ad' : JobAd} :
    ofJson ad.toJson = .ok ad' ↔ (∀ b ∈ ad.toList, b.name ≠ "") ∧ ad.reread = ad' := by
  have named : (∀ member ∈ ad.members, member.1 ≠ "") ↔ ∀ b ∈ ad.toList, b.name ≠ "" := by
    simp only [ad.members_perm.mem_iff, List.forall_mem_map, memberOf]
  rw [toJson_eq, ofJson, ofMembers_eq_ok_iff, named, assignMembers_members]

end JobAd

/-- A value is read back from its document exactly if it contains no error, NaN or infinity at any
depth, and an ad, with its spellings, exactly if all its attributes have names and are bound to such
values. -/
theorem documents_read_back :
    (∀ v : Value, Value.ofJson v.toJson = v ↔ v.Throughout (·.hasDocument = true)) ∧
    ∀ ad : JobAd, JobAd.ofJson ad.toJson = .ok ad ↔
      ∀ b ∈ ad.toList, b.name ≠ "" ∧
        ∃ v, b.expr = .lit v ∧ v.Throughout (·.hasDocument = true) := by
  refine ⟨fun v => Value.reread_eq_self_iff, fun ad => ?_⟩
  rw [JobAd.ofJson_toJson_eq_ok_iff, JobAd.reread_eq_self_iff, ← forall₂_and]
  simp only [JobAd.Binding.reread_eq_self_iff]

end RoutingPolicy

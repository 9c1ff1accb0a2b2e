import RoutingPolicy.Proofs.Ad.Reading

/-!
# Attributes that store a value

In an ad that a document stands for every attribute is bound to a literal or not at all. An
attribute of that kind stores its value: the value stays as long as nothing writes the attribute,
whatever becomes of the rest of the ad. For other attributes that would be wrong, since what an
expression is worth may change with every attribute that it mentions.
-/

namespace RoutingPolicy

set_option autoImplicit false

namespace JobAd

def Literal (ad : JobAd) : Prop := ∀ name e, ad.get? name = some e → ∃ v, e = .lit v

def assignMembers (members : List (String × Json)) (start : JobAd) : JobAd :=
  members.foldl (fun ad member => ad.assign member.1 (.ofJson member.2)) start

theorem ofMembers_eq_ok_iff {members : List (String × Json)} {start ad : JobAd} :
    ofMembers start members = .ok ad ↔
      (∀ member ∈ members, member.1 ≠ "") ∧ assignMembers members start = ad := by
  induction members generalizing start with
  | nil => simp [ofMembers, assignMembers]
  | cons member members induction =>
      obtain ⟨name, document⟩ := member
      rw [ofMembers, List.forall_mem_cons]
      split
      · next unnamed => exact iff_of_false nofun fun holds => holds.1.1 unnamed
      · next named =>
          rw [induction, and_iff_right named]
          rfl

theorem Literal.assign {ad : JobAd} (literal : ad.Literal) (name : String) (v : Value) :
    (ad.assign name v).Literal := by
  intro name' e bound
  rw [get?_assign] at bound
  split at bound
  · exact ⟨_, (Option.some.inj bound).symm⟩
  · exact literal name' e bound

theorem literal_ofMembers {members : List (String × Json)} {start ad : JobAd}
    (literal : start.Literal) (read : ofMembers start members = .ok ad) : ad.Literal := by
  obtain ⟨-, rfl⟩ := ofMembers_eq_ok_iff.1 read
  exact List.foldlRecOn members _ literal fun ad literal member _ => literal.assign _ _

theorem literal_of_ofJson {document : Json} {ad : JobAd} (read : ofJson document = .ok ad) :
    ad.Literal := by
  cases document with
  | object members =>
      apply literal_ofMembers _ read
      intro name e bound
      cases bound
  | _ => cases read

theorem exists_ofMembers {members : List (String × Json)} (start : JobAd)
    (named : ∀ member ∈ members, member.1 ≠ "") : ∃ ad, ofMembers start members = .ok ad :=
  ⟨_, ofMembers_eq_ok_iff.2 ⟨named, rfl⟩⟩

/-- Members with different names are all bound, and nothing else changes. -/
theorem get?_ofMembers {members : List (String × Json)} {start ad : JobAd}
    (distinct : (members.map fun member => Text.foldCase member.1).Nodup)
    (read : ofMembers start members = .ok ad) :
    (∀ member ∈ members, ad.get? member.1 = some (.lit (.ofJson member.2))) ∧
      ∀ name, Text.foldCase name ∉ (members.map fun member => Text.foldCase member.1) →
        ad.get? name = start.get? name := by
  obtain ⟨-, rfl⟩ := ofMembers_eq_ok_iff.1 read
  clear read
  induction members generalizing start with
  | nil => exact ⟨nofun, fun _ _ => rfl⟩
  | cons member rest induction =>
      rw [List.map_cons, List.nodup_cons] at distinct
      obtain ⟨bound, kept⟩ := @induction (start.assign member.1 (.ofJson member.2)) distinct.2
      rw [assignMembers, List.foldl_cons, ← assignMembers]
      constructor
      · intro member' listed
        rcases List.mem_cons.1 listed with rfl | listed
        · rw [kept _ distinct.1, get?_assign, if_pos rfl]
        · exact bound member' listed
      · intro other unlisted
        rw [List.map_cons, List.mem_cons, not_or] at unlisted
        rw [kept other unlisted.2, get?_assign, if_neg unlisted.1]

theorem Literal.evalAttr_congr {ad ad' : JobAd} {name : String} (literal : ad.Literal)
    (same : ad'.get? name = ad.get? name) : ad'.evalAttr name = ad.evalAttr name := by
  cases bound : ad.get? name with
  | none => rw [evalAttr_of_unbound bound, evalAttr_of_unbound (same.trans bound)]
  | some e =>
      obtain ⟨v, rfl⟩ := literal name e bound
      rw [evalAttr_of_lit bound, evalAttr_of_lit (same.trans bound)]

/-! ### Single attributes -/

/-- The attribute is bound to the value, or to nothing where the value is undefined. -/
def Stores (ad : JobAd) (name : String) (v : Value) : Prop :=
  ad.get? name = some (.lit v) ∨ (ad.get? name = none ∧ v = .undefined)

variable {ad ad' : JobAd} {name name' : String} {v v' : Value}

theorem Stores.evalAttr (stores : ad.Stores name v) : ad.evalAttr name = v := by
  rcases stores with bound | ⟨unbound, rfl⟩
  · exact evalAttr_of_lit bound
  · exact evalAttr_of_unbound unbound

theorem Stores.get?_eq (stores : ad.Stores name v) (defined : v ≠ .undefined) :
    ad.get? name = some (.lit v) :=
  stores.resolve_right fun unbound => defined unbound.2

theorem Stores.of_get?_eq (stores : ad.Stores name v) (same : ad'.get? name = ad.get? name) :
    ad'.Stores name v := by
  rw [Stores, same]
  exact stores

theorem stores_congr (ad : JobAd) (same : Text.sameIgnoringCase name name' = true) :
    ad.Stores name v ↔ ad.Stores name' v := by
  rw [Stores, Stores, ad.get?_congr (Text.sameIgnoringCase_iff.1 same)]

theorem Literal.stores (literal : ad.Literal) (name : String) :
    ad.Stores name (ad.evalAttr name) := by
  cases bound : ad.get? name with
  | none => exact .inr ⟨bound, evalAttr_of_unbound bound⟩
  | some e =>
      obtain ⟨v, rfl⟩ := literal name e bound
      rw [evalAttr_of_lit bound]
      exact .inl bound

/-! ### Flags -/

/-- The attribute stores true or something else, as the flag says. -/
def Flags (ad : JobAd) (name : String) (flag : Bool) : Prop :=
  ∃ v, ad.Stores name v ∧ (v = .bool true ↔ flag = true)

variable {flag : Bool}

theorem Flags.evalAttr_iff (flags : ad.Flags name flag) :
    ad.evalAttr name = .bool true ↔ flag = true := by
  obtain ⟨v, stores, truth⟩ := flags
  rw [stores.evalAttr, truth]

theorem Flags.of_get?_eq (flags : ad.Flags name flag) (same : ad'.get? name = ad.get? name) :
    ad'.Flags name flag := by
  obtain ⟨v, stores, truth⟩ := flags
  exact ⟨v, stores.of_get?_eq same, truth⟩

theorem flags_of_get? (bound : ad.get? name = some (.lit (.bool flag))) : ad.Flags name flag :=
  ⟨.bool flag, .inl bound, by simp⟩

theorem Literal.not_flags (literal : ad.Literal) (untrue : ad.evalAttr name ≠ .bool true) :
    ad.Flags name false :=
  ⟨_, literal.stores name, by simp [untrue]⟩

end JobAd

end RoutingPolicy

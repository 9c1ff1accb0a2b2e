import Mathlib.Data.List.Forall2
import RoutingPolicy.Proofs.Ad.Reading

/-!
# Identity of values

Identity is symmetric and transitive, but a value with NaN anywhere inside is not identical to
itself, since NaN equals no number. Lists are compared item by item and records field by field, so
each of these laws goes through lists and records if it holds of what they are made of. Values
without doubles are identical exactly if they are equal; on them one of the two comparisons by
identity is true and the other is false.
-/

set_option autoImplicit false

namespace RoutingPolicy

namespace Binary64

variable {a b c : Binary64}

theorem equal_iff : a.equal b = true ↔ ∃ p, a.position? = some p ∧ b.position? = some p := by
  rw [equal, beq_iff_eq, order?]
  cases a.position? with
  | none => simp
  | some p =>
      cases b.position? with
      | none => simp
      | some q =>
          simp only [Option.some.injEq, exists_eq_left']
          exact Std.LawfulEqCmp.compare_eq_iff_eq.trans eq_comm

theorem equal_symm (same : a.equal b = true) : b.equal a = true := by
  obtain ⟨p, left, right⟩ := equal_iff.1 same
  exact equal_iff.2 ⟨p, right, left⟩

theorem equal_trans (first : a.equal b = true) (second : b.equal c = true) :
    a.equal c = true := by
  obtain ⟨p, left, middle⟩ := equal_iff.1 first
  obtain ⟨q, middle', right⟩ := equal_iff.1 second
  obtain rfl : p = q := Option.some.inj (middle.symm.trans middle')
  exact equal_iff.2 ⟨p, left, right⟩

theorem equal_self_iff : a.equal a = true ↔ a ≠ nan := by
  rw [equal_iff]
  cases a <;> simp [position?]

end Binary64

/-! ### Lists that are related item by item -/

section Forall₂

variable {α : Type} {R : α → α → Prop} {l l' l'' : List α}

theorem forall₂_symm_of_mem (symm : ∀ a ∈ l, ∀ b, R a b → R b a) (related : List.Forall₂ R l l') :
    List.Forall₂ R l' l := by
  have both := (List.forall₂_and_left l l').2 ⟨symm, related⟩
  exact (both.imp fun a b holds => holds.1 b holds.2).flip

theorem forall₂_trans_of_mem (trans : ∀ a ∈ l, ∀ b c, R a b → R b c → R a c)
    (first : List.Forall₂ R l l') (second : List.Forall₂ R l' l'') : List.Forall₂ R l l'' := by
  induction first generalizing l'' with
  | nil =>
      cases second
      exact .nil
  | cons head tail induction =>
      rw [List.forall_mem_cons] at trans
      cases second with
      | cons head' tail' => exact .cons (trans.1 _ _ head head') (induction trans.2 tail')

theorem forall₂_iff_eq_of_mem (same : ∀ a ∈ l, ∀ b, R a b ↔ a = b) :
    List.Forall₂ R l l' ↔ l = l' := by
  constructor
  · intro related
    have both := (List.forall₂_and_left l l').2 ⟨same, related⟩
    exact List.forall₂_eq_eq_eq ▸ both.imp fun a b holds => (holds.1 b).1 holds.2
  · rintro rfl
    exact List.forall₂_same.2 fun a listed => (same a listed a).2 rfl

end Forall₂

namespace Value

/-! ### What a value contains -/

/-- A value contains itself and what its items or fields contain. -/
inductive Contains : Value → Value → Prop
  | self (v : Value) : Contains v v
  | item {items : List Value} {v w : Value} (listed : v ∈ items) (inner : Contains v w) :
    Contains (list items) w
  | field {fields : List (String × Value)} {field : String × Value} {w : Value}
    (listed : field ∈ fields) (inner : Contains field.2 w) : Contains (record fields) w

/-- Whether a value is neither a double nor made of other values. -/
def isPlain : Value → Bool
  | real _ => false
  | list _ => false
  | record _ => false
  | _ => true

/-- What holds of a list if it holds of its items, and of a record if it holds of its fields, holds
of every value. -/
theorem byContents {motive : Value → Prop} (plain : ∀ v, v.isPlain = true → motive v)
    (real : ∀ r, motive (real r)) (list : ∀ items, (∀ v ∈ items, motive v) → motive (list items))
    (record : ∀ fields : List (String × Value), (∀ field ∈ fields, motive field.2) →
      motive (record fields)) (v : Value) : motive v := by
  -- The recursor of a type that is nested in lists of itself has a motive for each kind of list.
  refine @Value.rec motive (fun items => ∀ v ∈ items, motive v)
    (fun fields => ∀ field ∈ fields, motive field.2) (fun field => motive field.2)
    (plain _ rfl) (plain _ rfl) (fun _ => plain _ rfl) (fun _ => plain _ rfl) real
    (fun _ => plain _ rfl) list record ?_ ?_ ?_ ?_ (fun _ _ holds => holds) v
  · exact nofun
  · exact fun _ _ first rest => List.forall_mem_cons.2 ⟨first, rest⟩
  · exact nofun
  · exact fun _ _ first rest => List.forall_mem_cons.2 ⟨first, rest⟩

def Throughout (p : Value → Prop) (v : Value) : Prop := ∀ w, v.Contains w → p w

section Throughout

variable {p : Value → Prop} {v : Value} {r : Binary64} {items : List Value}
  {fields : List (String × Value)}

theorem throughout_iff_of_isPlain (plain : v.isPlain = true) : v.Throughout p ↔ p v := by
  constructor
  · exact fun holds => holds v (.self v)
  · rintro own w (_ | _ | _)
    · exact own
    · cases plain
    · cases plain

theorem throughout_real_iff : (real r).Throughout p ↔ p (real r) := by
  constructor
  · exact fun holds => holds _ (.self _)
  · rintro own w ⟨⟩
    exact own

theorem throughout_list_iff :
    (list items).Throughout p ↔ p (list items) ∧ ∀ v ∈ items, v.Throughout p := by
  constructor
  · exact fun holds => ⟨holds _ (.self _), fun v listed w inner => holds w (.item listed inner)⟩
  · rintro ⟨own, inside⟩ w (_ | ⟨listed, inner⟩)
    · exact own
    · exact inside _ listed w inner

theorem throughout_record_iff :
    (record fields).Throughout p ↔
      p (record fields) ∧ ∀ field ∈ fields, field.2.Throughout p := by
  constructor
  · exact fun holds =>
      ⟨holds _ (.self _), fun field listed w inner => holds w (.field listed inner)⟩
  · rintro ⟨own, inside⟩ w (_ | _ | ⟨listed, inner⟩)
    · exact own
    · exact inside _ listed w inner

end Throughout

/-! ### Identity constructor by constructor -/

def SameField (field other : String × Value) : Prop :=
  field.1 = other.1 ∧ field.2.identical other.2 = true

theorem identicalItems_iff {items others : List Value} :
    identicalItems items others = true ↔
      List.Forall₂ (fun v w => v.identical w = true) items others := by
  induction items generalizing others with
  | nil => cases others <;> simp [identicalItems]
  | cons v items induction => cases others <;> simp [identicalItems, induction]

theorem identicalFields_iff {fields others : List (String × Value)} :
    identicalFields fields others = true ↔ List.Forall₂ SameField fields others := by
  induction fields generalizing others with
  | nil => cases others <;> simp [identicalFields]
  | cons field fields induction =>
      cases others <;> simp [identicalFields, SameField, induction]

variable {u v w : Value}

theorem identical_iff_of_isPlain (plain : v.isPlain = true) : v.identical w = true ↔ v = w := by
  cases v with
  | real r => cases plain
  | list items => cases plain
  | record fields => cases plain
  | _ => cases w <;> simp [identical]

theorem identical_real_iff {r : Binary64} :
    (real r).identical w = true ↔ ∃ s, w = real s ∧ r.equal s = true := by
  cases w <;> simp [identical]

theorem identical_list_iff {items : List Value} :
    (list items).identical w = true ↔
      ∃ others, w = list others ∧
        List.Forall₂ (fun v w => v.identical w = true) items others := by
  cases w <;> simp [identical, identicalItems_iff]

theorem identical_record_iff {fields : List (String × Value)} :
    (record fields).identical w = true ↔
      ∃ others, w = record others ∧ List.Forall₂ SameField fields others := by
  cases w <;> simp [identical, identicalFields_iff]

/-! ### Through lists and records -/

theorem identical_symm (same : v.identical w = true) : w.identical v = true := by
  induction v using byContents generalizing w with
  | plain v plain =>
      obtain rfl := (identical_iff_of_isPlain plain).1 same
      exact same
  | real r =>
      obtain ⟨s, rfl, equal⟩ := identical_real_iff.1 same
      exact identical_real_iff.2 ⟨r, rfl, Binary64.equal_symm equal⟩
  | list items induction =>
      obtain ⟨others, rfl, related⟩ := identical_list_iff.1 same
      refine identical_list_iff.2 ⟨items, rfl, forall₂_symm_of_mem ?_ related⟩
      exact fun v listed w => induction v listed
  | record fields induction =>
      obtain ⟨others, rfl, related⟩ := identical_record_iff.1 same
      refine identical_record_iff.2 ⟨fields, rfl, forall₂_symm_of_mem ?_ related⟩
      exact fun field listed other ⟨named, same⟩ => ⟨named.symm, induction field listed same⟩

theorem identical_trans (first : u.identical v = true) (second : v.identical w = true) :
    u.identical w = true := by
  induction u using byContents generalizing v w with
  | plain u plain =>
      obtain rfl := (identical_iff_of_isPlain plain).1 first
      exact second
  | real r =>
      obtain ⟨s, rfl, equal⟩ := identical_real_iff.1 first
      obtain ⟨t, rfl, equal'⟩ := identical_real_iff.1 second
      exact identical_real_iff.2 ⟨t, rfl, Binary64.equal_trans equal equal'⟩
  | list items induction =>
      obtain ⟨others, rfl, related⟩ := identical_list_iff.1 first
      obtain ⟨others', rfl, related'⟩ := identical_list_iff.1 second
      refine identical_list_iff.2 ⟨others', rfl, forall₂_trans_of_mem ?_ related related'⟩
      exact fun u listed v w => induction u listed
  | record fields induction =>
      obtain ⟨others, rfl, related⟩ := identical_record_iff.1 first
      obtain ⟨others', rfl, related'⟩ := identical_record_iff.1 second
      refine identical_record_iff.2 ⟨others', rfl, forall₂_trans_of_mem ?_ related related'⟩
      exact fun field listed _ _ ⟨named, same⟩ ⟨named', same'⟩ =>
        ⟨named.trans named', induction field listed same same'⟩

theorem identical_self_iff : v.identical v = true ↔ v.Throughout (· ≠ real .nan) := by
  induction v using byContents with
  | plain v plain =>
      rw [identical_iff_of_isPlain plain, throughout_iff_of_isPlain plain]
      refine iff_of_true rfl ?_
      rintro rfl
      cases plain
  | real r =>
      rw [throughout_real_iff, identical, Binary64.equal_self_iff, ne_eq, ne_eq, real.injEq]
  | list items induction =>
      simp only [identical_list_iff, list.injEq, exists_eq_left', List.forall₂_same,
        throughout_list_iff, ne_eq, reduceCtorEq, not_false_eq_true, true_and]
      exact forall₂_congr induction
  | record fields induction =>
      simp only [identical_record_iff, record.injEq, exists_eq_left', List.forall₂_same, SameField,
        throughout_record_iff, ne_eq, reduceCtorEq, not_false_eq_true, true_and]
      exact forall₂_congr induction

example : (list [int 1, list [real .nan]]).identical (list [int 1, list [real .nan]]) = false := by
  decide

def WithoutReals (v : Value) : Prop := v.Throughout fun w => ∀ r, w ≠ real r

/-- It is enough that one of the two values has no doubles. -/
theorem identical_iff_eq (without : v.WithoutReals) : v.identical w = true ↔ v = w := by
  induction v using byContents generalizing w with
  | plain v plain => exact identical_iff_of_isPlain plain
  | real r => exact absurd rfl (throughout_real_iff.1 without r)
  | list items induction =>
      have inside := (throughout_list_iff.1 without).2
      have same (others : List Value) :
          List.Forall₂ (fun v w => v.identical w = true) items others ↔ items = others :=
        forall₂_iff_eq_of_mem fun v listed w => induction v listed (inside v listed)
      simp only [identical_list_iff, same, exists_eq_right']
      exact eq_comm
  | record fields induction =>
      have inside := (throughout_record_iff.1 without).2
      have same (others : List (String × Value)) :
          List.Forall₂ SameField fields others ↔ fields = others := by
        refine forall₂_iff_eq_of_mem fun field listed other => ?_
        rw [SameField, induction field listed (inside field listed), Prod.ext_iff]
      simp only [identical_record_iff, same, exists_eq_right']
      exact eq_comm

theorem eval_identity {ad : JobAd} {e e' : Expr} (without : (ad.eval e).WithoutReals) :
    (ad.eval e = ad.eval e' ∧ ad.eval (.compare .identical e e') = .bool true ∧
        ad.eval (.compare .distinct e e') = .bool false) ∨
      (ad.eval e ≠ ad.eval e' ∧ ad.eval (.compare .identical e e') = .bool false ∧
        ad.eval (.compare .distinct e e') = .bool true) := by
  have identical : ad.eval (.compare .identical e e') =
    .bool ((ad.eval e).identical (ad.eval e')) := rfl
  have distinct : ad.eval (.compare .distinct e e') =
    .bool !(ad.eval e).identical (ad.eval e') := rfl
  rw [identical, distinct, ← identical_iff_eq without, ne_eq, ← identical_iff_eq without]
  cases (ad.eval e).identical (ad.eval e') with
  | false => exact .inr ⟨Bool.false_ne_true, rfl, rfl⟩
  | true => exact .inl ⟨rfl, rfl, rfl⟩

/-- Identity is symmetric and transitive, and reflexive on exactly the values that contain no NaN.
On values without doubles it is equality, and one of the two comparisons by identity is true and the
other false. -/
theorem identical_is_partial_equivalence :
    (∀ v w : Value, v.identical w = w.identical v) ∧
    (∀ u v w : Value, u.identical v = true → v.identical w = true → u.identical w = true) ∧
    (∀ v : Value, v.identical v = true ↔ v.Throughout (· ≠ real .nan)) ∧
    (∀ v w : Value, v.WithoutReals → (v.identical w = true ↔ v = w)) ∧
    ∀ (ad : JobAd) (e e' : Expr), (ad.eval e).WithoutReals →
      (ad.eval e = ad.eval e' ∧ ad.eval (.compare .identical e e') = .bool true ∧
          ad.eval (.compare .distinct e e') = .bool false) ∨
        (ad.eval e ≠ ad.eval e' ∧ ad.eval (.compare .identical e e') = .bool false ∧
          ad.eval (.compare .distinct e e') = .bool true) := by
  refine ⟨fun v w => ?_, fun u v w => identical_trans, fun v => identical_self_iff,
    fun v w => identical_iff_eq, fun ad e e' => eval_identity⟩
  exact Bool.eq_iff_iff.2 ⟨identical_symm, identical_symm⟩

/-- A record with a list in it is compared with one whose list goes on, and doubles of different
signs are both zero. -/
theorem identical_zeros_and_longer_lists :
    (list [real (.zero true)]).identical (list [real (.zero true)]) = true ∧
      ((record [("Sites", list [str "T1_US_FNAL"])]).identical
          (record [("Sites", list [str "T1_US_FNAL", undefined])]) = true ↔
        record [("Sites", list [str "T1_US_FNAL"])] =
          record [("Sites", list [str "T1_US_FNAL", undefined])]) ∧
      JobAd.empty.eval (.compare .distinct (.lit (list [error])) (.named "Sites")) =
        .bool true := by
  obtain ⟨-, transitive, -, equality, comparison⟩ := identical_is_partial_equivalence
  have single (v : Value) (plain : v.isPlain = true) (number : ∀ r, v ≠ real r) :
      (list [v]).WithoutReals :=
    throughout_list_iff.2
      ⟨nofun, List.forall_mem_singleton.2 ((throughout_iff_of_isPlain plain).2 number)⟩
  refine ⟨transitive _ (list [real (.zero false)]) _ (by decide) (by decide), ?_, ?_⟩
  · exact equality _ _
      (throughout_record_iff.2 ⟨nofun, List.forall_mem_singleton.2 (single _ rfl nofun)⟩)
  · obtain ⟨same, -⟩ | ⟨-, -, distinct⟩ :=
      comparison .empty (.lit (list [error])) (.named "Sites") (single _ rfl nofun)
    · cases same
    · exact distinct

end Value

end RoutingPolicy

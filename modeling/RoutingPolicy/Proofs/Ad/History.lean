import Mathlib.Data.List.Forall2
import Mathlib.Data.List.Induction
import RoutingPolicy.Ad.JobAd

/-!
# Ads along a history of changes

An ad that starts empty is changed one attribute at a time. What it holds under a name is told by
the last change of that name, in any spelling: the expression that was written, listed under the
spelling of that write, or nothing if the attribute was erased. One change alters one entry and
leaves all others; the rest follows by induction over the history. Spellings of one name differ in
the case of ASCII letters only, whatever other characters the name has. The listing is in ascending
order of the names in small letters, so no attribute is listed twice.
-/

set_option autoImplicit false

namespace RoutingPolicy

/-! ### Spellings of one name -/

namespace Text

/-- The characters are the same, or one of the letters A to Z and its small form. -/
def SameLetter (c d : Char) : Prop :=
  c = d ∨ (c.isUpper = true ∧ d.toNat = c.toNat + 32) ∨ (d.isUpper = true ∧ c.toNat = d.toNat + 32)

theorem toLower_eq_toLower_iff {c d : Char} : c.toLower = d.toLower ↔ SameLetter c d := by
  simp only [← Char.toNat_inj, toNat_toLower, SameLetter, isUpper_iff]
  split_ifs <;> omega

theorem sameIgnoringCase_iff_forall₂ {s t : String} :
    sameIgnoringCase s t = true ↔ List.Forall₂ SameLetter s.toList t.toList := by
  rw [sameIgnoringCase_iff, ← String.toList_inj, toList_foldCase, toList_foldCase,
    ← List.forall₂_eq_eq_eq, List.forall₂_map_left_iff, List.forall₂_map_right_iff]
  simp only [toLower_eq_toLower_iff]

end Text

/-! ### What is listed -/

namespace JobAd

variable {b : Binding}

theorem mem_toList_iff {ad : JobAd} :
    b ∈ ad.toList ↔ ad.entries.get? (Text.foldCase b.name) = some b := by
  rw [SortedMap.get?_eq_some_iff, toList, SortedMap.values, List.mem_map]
  constructor
  · rintro ⟨entry, listed, rfl⟩
    rwa [← ad.keyed entry listed]
  · exact fun listed => ⟨_, listed, rfl⟩

theorem pairwise_toList (ad : JobAd) :
    ad.toList.Pairwise fun a b => Text.foldCase a.name < Text.foldCase b.name := by
  rw [toList, SortedMap.values, List.pairwise_map]
  refine ad.entries.ascending.imp_of_mem fun {e e'} listed listed' smaller => ?_
  rw [← ad.keyed e listed, ← ad.keyed e' listed']
  exact compareOfLessAndEq_eq_lt.1 smaller

theorem pairwise_toList_of_different (ad : JobAd) :
    ad.toList.Pairwise fun a b => Text.sameIgnoringCase a.name b.name = false := by
  refine ad.pairwise_toList.imp fun smaller => Text.sameIgnoringCase_eq_false_iff.2 fun same => ?_
  rw [same] at smaller
  exact String.lt_irrefl _ smaller

end JobAd

/-! ### Changes -/

inductive AdChange where
  | assign (name : String) (v : Value)
  | bind (name : String) (e : Expr)
  | erase (name : String)

namespace AdChange

def name : AdChange → String
  | assign name _ => name
  | bind name _ => name
  | erase name => name

/-- The expression that the attribute is bound to afterwards, unless it is erased. -/
def written? : AdChange → Option Expr
  | assign _ v => some (.lit v)
  | bind _ e => some e
  | erase _ => none

def binding? (c : AdChange) : Option Binding := c.written?.map (⟨c.name, ·⟩)

def apply (c : AdChange) (ad : JobAd) : JobAd :=
  match c with
  | assign name v => ad.assign name v
  | bind name e => ad.bind name e
  | erase name => ad.erase name

/-- The last of the changes of an attribute, in any spelling of its name. -/
def last? (changes : List AdChange) (name : String) : Option AdChange :=
  (changes.filter fun c => Text.sameIgnoringCase c.name name).getLast?

theorem binding?_eq_some_iff {c : AdChange} {b : Binding} :
    c.binding? = some b ↔ c.name = b.name ∧ c.written? = some b.expr := by
  rw [binding?, Option.map_eq_some_iff]
  constructor
  · rintro ⟨e, written, rfl⟩
    exact ⟨rfl, written⟩
  · rintro ⟨spelled, written⟩
    exact ⟨b.expr, written, by rw [spelled]⟩

theorem map_expr_binding? (c : AdChange) : c.binding?.map (·.expr) = c.written? := by
  cases c <;> rfl

theorem last?_append_singleton (changes : List AdChange) (c : AdChange) (name : String) :
    last? (changes ++ [c]) name =
      if Text.foldCase name = Text.foldCase c.name then some c else last? changes name := by
  rw [last?, List.filter_append, List.filter_cons]
  by_cases same : Text.foldCase name = Text.foldCase c.name
  · rw [if_pos (Text.sameIgnoringCase_iff.2 same.symm), if_pos same, List.filter_nil,
      List.getLast?_concat]
  · rw [if_neg (mt Text.sameIgnoringCase_iff.1 (Ne.symm same)), if_neg same, List.filter_nil,
      List.append_nil, last?]

theorem get?_entries_apply (c : AdChange) (ad : JobAd) (key : String) :
    (c.apply ad).entries.get? key =
      if key = Text.foldCase c.name then c.binding? else ad.entries.get? key := by
  cases c with
  | assign name v => exact SortedMap.get?_insert ..
  | bind name e => exact SortedMap.get?_insert ..
  | erase name => exact SortedMap.get?_erase ..

end AdChange

namespace JobAd

open AdChange

def after (changes : List AdChange) : JobAd := changes.foldl (fun ad c => c.apply ad) empty

/-- An entry is what the last change of its name has written. -/
theorem get?_entries_after (changes : List AdChange) (name : String) :
    (after changes).entries.get? (Text.foldCase name) = (last? changes name).bind binding? := by
  -- From the end, where the change is that decides.
  induction changes using List.reverseRecOn with
  | nil => rfl
  | append_singleton changes c induction =>
      rw [after, List.foldl_append, List.foldl_cons, List.foldl_nil, ← after, get?_entries_apply,
        last?_append_singleton, induction]
      split <;> rfl

theorem get?_after (changes : List AdChange) (name : String) :
    (after changes).get? name = (last? changes name).bind written? := by
  rw [get?, get?_entries_after, Option.map_bind]
  exact Option.bind_congr fun c _ => c.map_expr_binding?

theorem mem_toList_after_iff {changes : List AdChange} {b : Binding} :
    b ∈ (after changes).toList ↔
      ∃ c, last? changes b.name = some c ∧ c.name = b.name ∧ c.written? = some b.expr := by
  simp only [mem_toList_iff, get?_entries_after, Option.bind_eq_some_iff, binding?_eq_some_iff]

/-- After any history an ad binds each name to what the last change of the name in any spelling has
written, and lists it as spelled there. No attribute is listed twice, and the names in small letters
ascend. Spellings of one name differ at most in the case of the letters A to Z. -/
theorem after_reflects_last_changes (changes : List AdChange) :
    (∀ name name', Text.sameIgnoringCase name name' = true ↔
      List.Forall₂ Text.SameLetter name.toList name'.toList) ∧
    (∀ name, (after changes).get? name = (last? changes name).bind written? ∧
      (after changes).contains name = ((last? changes name).bind written?).isSome) ∧
    (∀ b, b ∈ (after changes).toList ↔
      ∃ c, last? changes b.name = some c ∧ c.name = b.name ∧ c.written? = some b.expr) ∧
    ((after changes).toList.Pairwise fun a b => Text.sameIgnoringCase a.name b.name = false) ∧
    ((after changes).toList.Pairwise fun a b => Text.foldCase a.name < Text.foldCase b.name) ∧
    (after changes).size = (after changes).toList.length := by
  refine ⟨fun _ _ => Text.sameIgnoringCase_iff_forall₂,
    fun name => ⟨get?_after changes name, ?_⟩, fun b => mem_toList_after_iff,
    pairwise_toList_of_different _, pairwise_toList _, List.length_map _ |>.symm⟩
  rw [← get?_after, get?, Option.isSome_map]
  rfl

example : (after [.bind "Sites" (.named "Other"), .assign "sites" (.int 1), .erase "other",
    .assign "SITES" (.int 2)]).toList.map (·.name) = ["SITES"] := by
  decide +kernel

end JobAd

end RoutingPolicy

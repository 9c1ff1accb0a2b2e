import RoutingPolicy.Proofs.Ad.Reading
import RoutingPolicy.Rule.Basic

/-!
# What a rule writes, and what stops it

A rule changes only the attributes that its mutations and markers name, in any spelling; every other
attribute keeps its binding. A latch is a value of an attribute: a rule that has a latch leaves the
attribute bound to that value, and does not match an ad on which the attribute has it. A flag that a
rule sets in the end is a latch if a condition of the rule excludes it, and so is a value that it
writes into an attribute which it compares.
-/

namespace RoutingPolicy

set_option autoImplicit false

def Mutation.target : Mutation → String
  | copy _ destination => destination
  | set attr _ => attr
  | evalSet attr _ => attr
  | delete attr => attr

namespace Rule

def written (r : Rule) : List String :=
  r.mutations.map Mutation.target ++ r.markers.map MarkerUpdate.flag

def writes (r : Rule) (name : String) : Bool :=
  r.written.any fun target => Text.sameIgnoringCase target name

end Rule

theorem Rule.mem_written_make {category : Category} {name target : String} {guard : List Expr}
    {mutations : List Mutation} {markers : List MarkerUpdate}
    (member : target ∈ (make category name guard mutations markers).written) :
    target = Marker.hasBeenRouted ∨
      target ∈ mutations.map Mutation.target ++ markers.map MarkerUpdate.flag := by
  simp only [written, make, MarkerUpdate.complete] at member
  split at member
  · exact .inr member
  · rw [List.map_append, ← List.append_assoc] at member
    rcases List.mem_append.1 member with own | routing
    · exact .inr own
    · exact .inl (List.mem_singleton.1 routing)

theorem Rule.writes_eq_false_iff {r : Rule} {name : String} :
    r.writes name = false ↔ ∀ target ∈ r.written, Text.sameIgnoringCase target name = false := by
  simp [writes]

/-! ### What stays as it is -/

theorem Mutation.get?_apply_of_ne {m : Mutation} {name : String} (ad : JobAd)
    (other : Text.sameIgnoringCase m.target name = false) :
    (m.apply ad).get? name = ad.get? name := by
  have different : Text.foldCase name ≠ Text.foldCase m.target :=
    (Text.sameIgnoringCase_eq_false_iff.1 other).symm
  cases m with
  | copy source destination =>
      simp only [apply]
      split
      · exact (ad.get?_bind destination name _).trans (if_neg different)
      · rfl
  | set attr e => exact (ad.get?_bind attr name e).trans (if_neg different)
  | evalSet attr e => exact (ad.get?_assign attr name _).trans (if_neg different)
  | delete attr => exact (ad.get?_erase attr name).trans (if_neg different)

theorem Mutation.get?_foldl_of_ne {mutations : List Mutation} {name : String} (ad : JobAd)
    (other : ∀ m ∈ mutations, Text.sameIgnoringCase m.target name = false) :
    (mutations.foldl (fun ad m => m.apply ad) ad).get? name = ad.get? name := by
  induction mutations generalizing ad with
  | nil => rfl
  | cons m rest induction =>
      rw [List.foldl_cons, induction _ fun m' member => other m' (List.mem_cons_of_mem _ member)]
      exact m.get?_apply_of_ne ad (other m List.mem_cons_self)

/-- Where all updates of a flag agree, the flag has their value in the end; where there is none, it
stays as it is. -/
theorem MarkerUpdate.get?_foldl {updates : List MarkerUpdate} {name : String} {value : Bool}
    (ad : JobAd)
    (agree : ∀ m ∈ updates, Text.sameIgnoringCase m.flag name = true → m.value = value) :
    (updates.foldl (fun ad m => m.apply ad) ad).get? name =
      if updates.any fun m => Text.sameIgnoringCase m.flag name then some (.lit (.bool value))
      else ad.get? name := by
  induction updates generalizing ad with
  | nil => rfl
  | cons m rest induction =>
      rw [List.foldl_cons, induction _ fun m' member => agree m' (List.mem_cons_of_mem _ member)]
      rw [List.any_cons, apply, JobAd.get?_assign]
      cases same : Text.sameIgnoringCase m.flag name with
      | true =>
          have own := agree m List.mem_cons_self same
          rw [Text.sameIgnoringCase_iff] at same
          simp [same, own]
      | false =>
          have different := (Text.sameIgnoringCase_eq_false_iff.1 same).symm
          simp [different]

namespace Rule

theorem get?_apply_of_unmarked {r : Rule} {name : String} (ad : JobAd)
    (unmarked : (r.markers.any fun m => Text.sameIgnoringCase m.flag name) = false) :
    (r.apply ad).get? name = (r.mutations.foldl (fun ad m => m.apply ad) ad).get? name := by
  have agree : ∀ m ∈ r.markers, Text.sameIgnoringCase m.flag name = true → m.value = true := by
    intro m member same
    rw [List.any_eq_false] at unmarked
    exact absurd same (unmarked m member)
  rw [apply, MarkerUpdate.get?_foldl _ agree, unmarked]
  exact if_neg Bool.false_ne_true

theorem get?_apply_of_not_writes {r : Rule} {name : String} (ad : JobAd)
    (kept : r.writes name = false) : (r.apply ad).get? name = ad.get? name := by
  have other := writes_eq_false_iff.1 kept
  have mutations : ∀ m ∈ r.mutations, Text.sameIgnoringCase m.target name = false :=
    fun m member => other _ (List.mem_append_left _ (List.mem_map_of_mem member))
  have markers : ∀ m ∈ r.markers, Text.sameIgnoringCase m.flag name = false :=
    fun m member => other _ (List.mem_append_right _ (List.mem_map_of_mem member))
  have unmarked : (r.markers.any fun m => Text.sameIgnoringCase m.flag name) = false := by
    simpa using markers
  rw [get?_apply_of_unmarked ad unmarked, Mutation.get?_foldl_of_ne ad mutations]

/-! ### What a rule leaves behind -/

/-- A flag that a rule sets has the value of its markers, whatever the mutations do. -/
theorem get?_apply_marker {r : Rule} {name : String} {value : Bool} (ad : JobAd)
    (marked : (r.markers.any fun m => Text.sameIgnoringCase m.flag name) = true)
    (agree : ∀ m ∈ r.markers, Text.sameIgnoringCase m.flag name = true → m.value = value) :
    (r.apply ad).get? name = some (.lit (.bool value)) := by
  rw [apply, MarkerUpdate.get?_foldl _ agree, if_pos marked]

theorem get?_apply_last {r : Rule} {before after : List Mutation} {m : Mutation} {name : String}
    (ad : JobAd) (parts : r.mutations = before ++ m :: after)
    (later : ∀ m ∈ after, Text.sameIgnoringCase m.target name = false)
    (unmarked : (r.markers.any fun m => Text.sameIgnoringCase m.flag name) = false) :
    (r.apply ad).get? name = (m.apply (before.foldl (fun ad m => m.apply ad) ad)).get? name := by
  rw [get?_apply_of_unmarked ad unmarked, parts, List.foldl_append, List.foldl_cons,
    Mutation.get?_foldl_of_ne _ later]

theorem get?_apply_set {r : Rule} {before after : List Mutation} {name : String} {e : Expr}
    (ad : JobAd) (parts : r.mutations = before ++ .set name e :: after)
    (later : ∀ m ∈ after, Text.sameIgnoringCase m.target name = false)
    (unmarked : (r.markers.any fun m => Text.sameIgnoringCase m.flag name) = false) :
    (r.apply ad).get? name = some e := by
  rw [get?_apply_last ad parts later unmarked, Mutation.apply, JobAd.get?_bind, if_pos rfl]

theorem get?_apply_delete {r : Rule} {before after : List Mutation} {name : String}
    (ad : JobAd) (parts : r.mutations = before ++ .delete name :: after)
    (later : ∀ m ∈ after, Text.sameIgnoringCase m.target name = false)
    (unmarked : (r.markers.any fun m => Text.sameIgnoringCase m.flag name) = false) :
    (r.apply ad).get? name = none := by
  rw [get?_apply_last ad parts later unmarked, Mutation.apply, JobAd.get?_erase, if_pos rfl]

/-- An attribute computed from a copy of itself has the value that the expression has beside the
copy. -/
theorem get?_apply_recomputed {r : Rule} {after : List Mutation} {name saved : String} {e : Expr}
    {v : Value} {ad : JobAd} (parts : r.mutations = .copy name saved :: .evalSet name e :: after)
    (later : ∀ m ∈ after, Text.sameIgnoringCase m.target name = false)
    (unmarked : (r.markers.any fun m => Text.sameIgnoringCase m.flag name) = false)
    (bound : ad.get? name = some (.lit v)) :
    ∃ copied : JobAd, copied.evalAttr saved = v ∧
      (r.apply ad).get? name = some (.lit (copied.eval e)) := by
  refine ⟨ad.bind saved (.lit v), ?_, ?_⟩
  · apply JobAd.evalAttr_of_lit
    rw [JobAd.get?_bind, if_pos rfl]
  · have split : r.mutations = [.copy name saved] ++ .evalSet name e :: after := parts
    have copies : (Mutation.copy name saved).apply ad = ad.bind saved (.lit v) := by
      rw [Mutation.apply, bound]
    rw [get?_apply_last ad split later unmarked, List.foldl_cons, List.foldl_nil, copies,
      Mutation.apply, JobAd.get?_assign, if_pos rfl]

variable {category : Category} {name flag attr : String} {guard : List Expr}
  {mutations : List Mutation}

theorem any_markers_make_eq_false {value : Bool} (other : Text.sameIgnoringCase flag attr = false)
    (unrouted : Text.sameIgnoringCase Marker.hasBeenRouted attr = false) :
    ((make category name guard mutations [⟨flag, value⟩]).markers.any fun m =>
      Text.sameIgnoringCase m.flag attr) = false := by
  simp only [make, MarkerUpdate.complete]
  split <;> simp [other, unrouted]

theorem get?_apply_make_flag (ad : JobAd) (value : Bool) :
    ((make category name guard mutations [⟨flag, value⟩]).apply ad).get? flag =
      some (.lit (.bool value)) := by
  apply get?_apply_marker
  · simp only [make, MarkerUpdate.complete]
    split <;> simp
  · intro m member
    simp only [make, MarkerUpdate.complete] at member
    split at member
    · simp_all
    · next other =>
        have unrouted : Text.sameIgnoringCase Marker.hasBeenRouted flag = false := by
          rw [Text.sameIgnoringCase_comm]
          simpa [MarkerUpdate.isRouting, Marker.isSame] using other
        rcases List.mem_append.1 member with own | routing
        · simp_all
        · obtain rfl := List.mem_singleton.1 routing
          simp [unrouted]

theorem get?_apply_make_routed {markers : List MarkerUpdate} (ad : JobAd)
    (falsified : ∀ m ∈ markers, m.isRouting = true → m.value = false) :
    ((make category name guard mutations markers).apply ad).get? Marker.hasBeenRouted =
      some (.lit (.bool false)) := by
  apply get?_apply_marker
  · exact MarkerUpdate.any_isRouting_complete markers
  · intro m member same
    simp only [make, MarkerUpdate.complete] at member
    split at member
    · exact falsified m member same
    · rcases List.mem_append.1 member with own | routing
      · exact falsified m own same
      · rw [List.mem_singleton.1 routing]

theorem get?_apply_make_unrouted {value : Bool} (ad : JobAd)
    (other : Text.sameIgnoringCase flag Marker.hasBeenRouted = false) :
    ((make category name guard mutations [⟨flag, value⟩]).apply ad).get? Marker.hasBeenRouted =
      some (.lit (.bool false)) := by
  apply get?_apply_make_routed
  intro m member routing
  obtain rfl := List.mem_singleton.1 member
  rw [MarkerUpdate.isRouting, Marker.isSame, other] at routing
  cases routing

theorem exists_of_selector {r : Rule} {ad : JobAd} {a : AttrRef} {items : List String}
    {selector : Expr} (selects : Expr.memberOf? a items = some selector)
    (member : selector ∈ r.guard.clauses) (fits : r.matchesAd ad = true) :
    ∃ s, ad.evalAttr a.name = .str s ∧ ∃ t ∈ items, Text.sameIgnoringCase s t = true :=
  (Expr.eval_memberOf?_iff selects).1 (Guard.holds_iff.1 fits selector member)

theorem not_matchesAd_of_clause {r : Rule} {ad : JobAd} {clause : Expr}
    (member : clause ∈ r.guard.clauses) (refuted : ad.eval clause ≠ .bool true) :
    r.matchesAd ad = false := by
  rw [Bool.eq_false_iff]
  intro holds
  exact refuted (Guard.holds_iff.1 holds clause member)

end Rule

/-! ### Latches -/

structure Latch where
  attr : String
  value : Value

def Latch.Closed (latch : Latch) (ad : JobAd) : Prop :=
  ad.get? latch.attr = some (.lit latch.value)

theorem Latch.Closed.evalAttr {latch : Latch} {ad : JobAd} (closed : latch.Closed ad) :
    ad.evalAttr latch.attr = latch.value :=
  JobAd.evalAttr_of_lit closed

theorem Latch.closed_congr {name name' : String} {v : Value} {ad : JobAd}
    (same : Text.sameIgnoringCase name name' = true) :
    Closed ⟨name, v⟩ ad ↔ Closed ⟨name', v⟩ ad := by
  rw [Closed, Closed, ad.get?_congr (Text.sameIgnoringCase_iff.1 same)]

namespace Rule

theorem closed_apply_of_not_writes {r : Rule} {latch : Latch} {ad : JobAd}
    (kept : r.writes latch.attr = false) (closed : latch.Closed ad) :
    latch.Closed (r.apply ad) := by
  rw [Latch.Closed, get?_apply_of_not_writes ad kept]
  exact closed

/-- The rule closes the latch, and does not match where it is closed. -/
structure Latches (r : Rule) (latch : Latch) : Prop where
  closes : ∀ ad, latch.Closed (r.apply ad)
  blocks : ∀ ad, latch.Closed ad → r.matchesAd ad = false

theorem Latches.disabled {r : Rule} {latch : Latch} (latches : r.Latches latch) (ad : JobAd) :
    r.matchesAd (r.apply ad) = false :=
  latches.blocks _ (latches.closes ad)

theorem Latches.not_closed {r : Rule} {latch : Latch} {ad : JobAd} (latches : r.Latches latch)
    (fits : r.matchesAd ad = true) : ¬ latch.Closed ad := by
  intro closed
  rw [latches.blocks ad closed] at fits
  cases fits

/-- A value that a rule leaves in an attribute is a latch if a comparison of that attribute is not
true of it. -/
theorem latches_of_comparison {r : Rule} {latch : Latch} {comparison : Comparison} {a : AttrRef}
    {v : Value} (closes : ∀ ad, latch.Closed (r.apply ad))
    (member : .compareTo comparison a v ∈ r.guard.clauses) (named : a.name = latch.attr)
    (refuted : comparison.apply latch.value v ≠ .bool true) : r.Latches latch where
  closes := closes
  blocks := by
    intro ad closed
    apply not_matchesAd_of_clause member
    rw [JobAd.eval_compareTo, named, closed.evalAttr]
    exact refuted

variable {category : Category} {name flag attr : String} {guard : List Expr}
  {mutations after : List Mutation} {comparison : Comparison} {a : AttrRef} {v value : Value}

theorem latches_make_flag {truth : Bool} (member : .compareTo comparison a v ∈ guard)
    (named : a.name = flag) (refuted : comparison.apply (.bool truth) v ≠ .bool true) :
    (make category name guard mutations [⟨flag, truth⟩]).Latches ⟨flag, .bool truth⟩ :=
  latches_of_comparison (fun ad => get?_apply_make_flag ad truth) member named refuted

theorem latches_make_true (member : .flagIsNotTrue a ∈ guard) (named : a.name = flag) :
    (make category name guard mutations [⟨flag, true⟩]).Latches ⟨flag, .bool true⟩ :=
  latches_make_flag member named (by simp [Comparison.apply, Value.identical])

theorem latches_make_false (member : .flagIsTrue a ∈ guard) (named : a.name = flag) :
    (make category name guard mutations [⟨flag, false⟩]).Latches ⟨flag, .bool false⟩ :=
  latches_make_flag member named (by simp [Comparison.apply, Value.identical])

theorem latches_make_value (member : .compareTo comparison a v ∈ guard) (named : a.name = attr)
    (refuted : comparison.apply value v ≠ .bool true)
    (later : ∀ m ∈ after, Text.sameIgnoringCase m.target attr = false)
    (unrouted : Text.sameIgnoringCase Marker.hasBeenRouted attr = false) :
    (make category name guard (.set attr (.lit value) :: after) []).Latches ⟨attr, value⟩ := by
  apply latches_of_comparison _ member named refuted
  intro ad
  apply get?_apply_set ad (List.nil_append _).symm later
  simp [make, MarkerUpdate.complete, unrouted]

end Rule

end RoutingPolicy

import RoutingPolicy.Emit.Output
import RoutingPolicy.Proofs.Emit.Clash

/-!
# What a refused rule set is told

A rule set is refused for the first of its rules that has two directives with one name, and the
directive that is named is the first of this rule that repeats an earlier one. Every way of writing
the rule set asks this first, so they all refuse the same rule sets with the same words, and a rule
set that is refused leaves nothing written.
-/

namespace RoutingPolicy

set_option autoImplicit false

open Text

/-! ### Outputs that write once -/

namespace Output

variable {ε α : Type}

/-- Writes the text of a result, or ends with its error. -/
def ofText (result : Except ε String) : Output ε Unit := do
  let text ← ofExcept result
  write text

theorem ofExcept_bind_ofText (result : Except ε α) (text : α → Except ε String) :
    (ofExcept result >>= fun a => ofText (text a)) = ofText (result >>= text) := by
  cases result <;> rfl

theorem ofText_apply (result : Except ε String) (before : String) :
    ofText result before = match result with
      | .ok text => (.ok (), before ++ text)
      | .error e => (.error e, before) := by
  cases result <;> rfl

theorem collect_ofText (result : Except ε String) :
    (ofText result).collect = match result with
      | .ok text => (.ok (), text)
      | .error e => (.error e, "") := by
  rw [collect, ofText_apply]
  cases result <;> simp

/-- Where it ends with an error, nothing was written. -/
def Atomic (output : Output ε α) : Prop :=
  ∀ before failure after, output before = (.error failure, after) → after = before

theorem atomic_ofText (result : Except ε String) : (ofText result).Atomic := by
  intro before failure after ended
  rw [ofText_apply] at ended
  cases result with
  | error e =>
      cases ended
      rfl
  | ok text => cases ended

end Output

/-! ### Names that repeat -/

def Repeats (names : List String) : Prop :=
  ∃ (i j : Nat) (first second : String), i < j ∧ names[i]? = some first ∧
    names[j]? = some second ∧ foldCase first = foldCase second

def FirstRepeat (names : List String) (name : String) : Prop :=
  ∃ earlier later, names = earlier ++ name :: later ∧
    (∃ first ∈ earlier, foldCase first = foldCase name) ∧ ¬ Repeats earlier

theorem repeats_iff {names : List String} : Repeats names ↔ ¬ (names.map foldCase).Nodup := by
  rw [List.nodup_iff_getElem?_ne_getElem?]
  push Not
  constructor
  · rintro ⟨i, j, first, second, before, known, known', same⟩
    have inside : j < names.length := (List.getElem?_eq_some_iff.1 known').1
    exact ⟨i, j, before, by simpa using inside, by simp [known, known', same]⟩
  · rintro ⟨i, j, before, inside, same⟩
    rw [List.length_map] at inside
    have known := List.getElem?_eq_getElem (Nat.lt_trans before inside)
    have known' := List.getElem?_eq_getElem inside
    refine ⟨i, j, _, _, before, known, known', ?_⟩
    simpa [known, known'] using same

/-- The search stops at the first name that is taken, by an earlier name or from the start. -/
theorem firstRepeated?_eq_some_iff {seen names : List String} {name : String} :
    firstRepeated? seen names = some name ↔
      ∃ earlier later, names = earlier ++ name :: later ∧ firstRepeated? seen earlier = none ∧
        foldCase name ∈ earlier.map foldCase ++ seen := by
  induction names generalizing seen with
  | nil => simp [firstRepeated?]
  | cons first rest induction =>
      by_cases taken : foldCase first ∈ seen
      · rw [firstRepeated?_cons_of_mem taken, Option.some.injEq]
        constructor
        · rintro rfl
          exact ⟨[], rest, rfl, rfl, taken⟩
        · rintro ⟨_ | ⟨own, earlier⟩, later, split, passed, -⟩
          · exact (List.cons.inj split).1
          · obtain ⟨rfl, -⟩ := List.cons.inj split
            rw [firstRepeated?_cons_of_mem taken] at passed
            cases passed
      · rw [firstRepeated?_cons_of_not_mem taken, induction]
        constructor
        · rintro ⟨earlier, later, rfl, passed, repeated⟩
          refine ⟨first :: earlier, later, rfl, ?_, by simpa [or_left_comm] using repeated⟩
          rw [firstRepeated?_cons_of_not_mem taken, passed]
        · rintro ⟨_ | ⟨own, earlier⟩, later, split, passed, repeated⟩
          · obtain ⟨rfl, -⟩ := List.cons.inj split
            exact absurd (by simpa using repeated) taken
          · obtain ⟨rfl, rfl⟩ := List.cons.inj split
            rw [firstRepeated?_cons_of_not_mem taken] at passed
            exact ⟨earlier, later, rfl, passed, by simpa [or_left_comm] using repeated⟩

namespace Rule

theorem clash?_eq_some_iff {r : Rule} {directive : String} :
    r.clash? = some directive ↔ FirstRepeat r.directives directive := by
  rw [clash?, firstRepeated?_eq_some_iff, FirstRepeat]
  refine exists_congr fun earlier => exists_congr fun later => and_congr_right fun split => ?_
  -- No directive is a fixed attribute, so only the directives themselves take names.
  have unfixed : ∀ name ∈ r.directives, foldCase name ∉ fixedAttributes.map foldCase :=
    r.disjoint_directives
  rw [split] at unfixed
  rw [firstRepeated?_eq_none_iff, List.mem_append, List.mem_map, repeats_iff, not_not,
    and_iff_left fun name listed => unfixed name (List.mem_append_left _ listed),
    or_iff_left (unfixed directive (by simp)), and_comm]

theorem clash?_eq_none_iff_not_repeats {r : Rule} :
    r.clash? = none ↔ ¬ Repeats r.directives := by
  rw [clash?_eq_none_iff, repeats_iff, not_not]

end Rule

/-! ### Rule sets -/

namespace RuleSet

variable {s : RuleSet} {e : EmitError}

/-- The reason for which the rule set is refused: the first rule that has a directive twice, and the
first of its directives that repeats an earlier one. -/
def Refused (s : RuleSet) : EmitError → Prop
  | .duplicateDirective name directive => ∃ before r after, s.rules = before ++ r :: after ∧
      r.name = name ∧ FirstRepeat r.directives directive ∧
        ∀ earlier ∈ before, ¬ Repeats earlier.directives

theorem validate_eq_error_iff : s.validate = .error e ↔ s.Refused e := by
  have found : s.validate = .error e ↔ (s.rules.findSome? fun r =>
      r.clash?.map (EmitError.duplicateDirective r.name)) = some e := by
    rw [validate]
    cases s.rules.findSome? fun r => r.clash?.map (EmitError.duplicateDirective r.name) <;> simp
  rw [found, List.findSome?_eq_some_iff]
  obtain ⟨name, directive⟩ := e
  simp only [Option.map_eq_some_iff, Option.map_eq_none_iff, Rule.clash?_eq_some_iff,
    Rule.clash?_eq_none_iff_not_repeats, EmitError.duplicateDirective.injEq, Refused]
  refine exists_congr fun before => exists_congr fun r => exists_congr fun after =>
    and_congr_right fun _ => ?_
  constructor
  · rintro ⟨⟨own, first, named, rfl⟩, clear⟩
    exact ⟨named, first, clear⟩
  · rintro ⟨named, first, clear⟩
    exact ⟨⟨directive, first, named, rfl⟩, clear⟩

def text (s : RuleSet) : RuleFormat → String
  | .ads => s.ads
  | .json => s.documentText

theorem render_eq_map (s : RuleSet) (format : RuleFormat) :
    s.render format = s.validate.map fun _ => s.text format := by
  unfold render
  cases s.validate <;> cases format <;> rfl

theorem fingerprint_eq_map (s : RuleSet) :
    s.fingerprint = s.validate.map fun _ => "sha256:" ++ Sha256.hexDigest s.ads := by
  rw [fingerprint, render_eq_map]
  cases s.validate <;> rfl

theorem emit_eq_ofText (s : RuleSet) (format : RuleFormat) :
    s.emit format = Output.ofText (s.render format) := rfl

theorem exists_refused_iff : (∃ e, s.Refused e) ↔ ∃ r ∈ s.rules, Repeats r.directives := by
  simp only [← validate_eq_error_iff, repeats_iff]
  rw [← not_iff_not]
  push Not
  rw [← validate_eq_ok_iff]
  cases s.validate <;> simp

theorem render_eq_error_iff {format : RuleFormat} :
    s.render format = .error e ↔ s.Refused e := by
  rw [← validate_eq_error_iff, render_eq_map]
  cases s.validate <;> simp [Except.map]

theorem fingerprint_eq_error_iff : s.fingerprint = .error e ↔ s.Refused e := by
  rw [← validate_eq_error_iff, fingerprint_eq_map]
  cases s.validate <;> simp [Except.map]

/-- All ways of writing a rule set refuse it for one reason, and leave nothing written, or none of
them refuses it. -/
structure RefusedTogether (s : RuleSet) : Prop where
  refused_iff : (∃ e, s.Refused e) ↔ ∃ r ∈ s.rules, Repeats r.directives
  validate_iff : ∀ e, s.validate = .error e ↔ s.Refused e
  render_iff : ∀ format e, s.render format = .error e ↔ s.Refused e
  fingerprint_iff : ∀ e, s.fingerprint = .error e ↔ s.Refused e
  accepted : (∀ r ∈ s.rules, ¬ Repeats r.directives) →
    s.validate = .ok () ∧ (∀ format, s.render format = .ok (s.text format)) ∧
      s.fingerprint = .ok ("sha256:" ++ Sha256.hexDigest s.ads)
  emit_of_refused : ∀ e, s.Refused e → ∀ format before,
    s.emit format before = (.error e, before)
  emit_of_render : ∀ format text, s.render format = .ok text → ∀ before,
    s.emit format before = (.ok (), before ++ text)

theorem refusedTogether (s : RuleSet) : s.RefusedTogether where
  refused_iff := exists_refused_iff
  validate_iff _ := validate_eq_error_iff
  render_iff _ _ := render_eq_error_iff
  fingerprint_iff _ := fingerprint_eq_error_iff
  accepted := by
    intro clear
    have valid : s.validate = .ok () :=
      validate_eq_ok_iff.2 fun r listed => not_not.1 (repeats_iff.not.1 (clear r listed))
    refine ⟨valid, fun format => ?_, fingerprint_of_validate valid⟩
    rw [render_eq_map, valid]
    rfl
  emit_of_refused := by
    intro e refused format before
    rw [emit_eq_ofText, render_eq_error_iff.2 refused, Output.ofText_apply]
  emit_of_render := by
    intro format text rendered before
    rw [emit_eq_ofText, rendered, Output.ofText_apply]

/-- The rule that clashes is named, and the directive as it is spelled where it repeats. -/
example :
    let clear := Rule.make .hold "clear" [] [.delete "site", .set "site" (.lit .undefined)] []
    let clashing :=
      Rule.make .hold "clashing" [] [.delete "Site", .delete "SITE", .delete "site"] []
    (RuleSet.mk [clear, clashing]).validate =
      .error (.duplicateDirective "clashing" "delete_SITE") := by
  decide +kernel

end RuleSet

end RoutingPolicy

import RoutingPolicy.Proofs.Ad.Arithmetic
import RoutingPolicy.Proofs.Ad.Stored
import RoutingPolicy.Proofs.Compile.Family

/-!
# Keys of priority as a rule computes them

The keys of priority are defined twice: on the inputs, where a key that 64 bits do not hold does not
exist, and as expressions, where an operation without a result is error. The two agree, since error
in an operand is error of the operation, just as no key is made from a part that does not exist. The
rule computes its expressions after it has saved the priorities of the agent, and it computes both
before it gives the names of these priorities to the keys, so it reads what the agent had written.
-/

namespace RoutingPolicy

set_option autoImplicit false

open Compile.Ranking

/-! ### Lengths and references -/

namespace JobAd

variable {ad : JobAd}

theorem eval_size {name s : String} {length : Int64} (read : ad.evalAttr name = .str s)
    (fits : Integer.ofInt? s.length = some length) :
    ad.eval (.call .size [.named name]) = .int length := by
  have value : ad.eval (.call .size [.named name]) = Func.size.apply [ad.evalAttr name] := rfl
  rw [value, read, Func.apply, ← Int64.ofInt_eq_ofNat, ← Integer.ofInt?_eq_some_iff.1 fits,
    Int64.ofInt_toInt]

theorem evalAttr_of_named {name other : String} {v : Value}
    (refers : ad.get? name = some (.named other)) (bound : ad.get? other = some (.lit v)) :
    ad.evalAttr name = v := by
  have followed : ad.evalAttr name = ad.readAt maxDepth name := rfl
  rw [followed, maxDepth, readAt, refers]
  simp [Expr.named, Expr.evalIn, readAt, bound]

end JobAd

/-! ### The two definitions of the keys -/

def Priority.inputs : List String :=
  [Attribute.agentPostJobPrio1, Attribute.agentPostJobPrio2, Attribute.subtaskName,
    Attribute.maxWallTime, Attribute.requestDisk]

/-- The ad has the inputs of the keys, and among them the priorities of the agent as the rule saves
them. -/
structure JobAd.Saves (ad : JobAd) (p : PriorityInputs) : Prop where
  workflowPrio : ad.get? Attribute.agentPostJobPrio2 = some (.lit (.int p.workflowPrio))
  sitePrio : ad.get? Attribute.agentPostJobPrio1 = some (.lit (.int p.sitePrio))
  subtask : ∃ name, ad.get? Attribute.subtaskName = some (.lit (.str name)) ∧
    Integer.ofInt? name.length = some p.subtaskNameLength
  wallMinutes : ad.get? Attribute.maxWallTime = some (.lit (.int p.wallMinutes))
  diskKb : ad.get? Attribute.requestDisk = some (.lit (.int p.diskKb))

namespace JobAd.Saves

variable {ad : JobAd} {p : PriorityInputs}

theorem eval_primaryExpr (saves : ad.Saves p) :
    ad.eval Priority.primaryExpr = .ofInt? p.primaryKey? := by
  obtain ⟨name, bound, fits⟩ := saves.subtask
  have workflow : ad.eval (.named Attribute.agentPostJobPrio2) = .ofInt? (some p.workflowPrio) :=
    evalAttr_of_lit saves.workflowPrio
  have length : ad.eval (.call .size [.named Attribute.subtaskName]) =
      .ofInt? (some p.subtaskNameLength) :=
    eval_size (evalAttr_of_lit bound) fits
  have site : ad.eval (.named Attribute.agentPostJobPrio1) = .ofInt? (some p.sitePrio) :=
    evalAttr_of_lit saves.sitePrio
  have weight : ∀ factor, ad.eval (.int factor) = .ofInt? (some factor) := fun _ => rfl
  have weighed := eval_arithmetic .mul workflow (weight Priority.workflowWeight)
  have lengthened := eval_arithmetic .mul length (weight Priority.nameLengthWeight)
  have value := eval_arithmetic .add (eval_arithmetic .add weighed lengthened) site
  simp only [Option.bind_some, Option.bind_assoc] at value
  exact value

theorem eval_secondaryExpr (saves : ad.Saves p) :
    ad.eval Priority.secondaryExpr = .ofInt? p.secondaryKey? := by
  have wall : ad.eval (.named Attribute.maxWallTime) = .ofInt? (some p.wallMinutes) :=
    evalAttr_of_lit saves.wallMinutes
  have disk : ad.eval (.named Attribute.requestDisk) = .ofInt? (some p.diskKb) :=
    evalAttr_of_lit saves.diskKb
  have divisor : ad.eval (.int Priority.diskDivisor) = .ofInt? (some Priority.diskDivisor) := rfl
  exact eval_arithmetic .sub (eval_neg wall) (eval_arithmetic .div disk divisor)

end JobAd.Saves

/-! ### What the rule leaves -/

namespace PriorityInputs

variable {ad : JobAd} {p : PriorityInputs}

theorem of_ofAd?_eq_some (given : ofAd? ad = some p) :
    ad.evalAttr Attribute.postJobPrio2 = .int p.workflowPrio ∧
      ad.evalAttr Attribute.postJobPrio1 = .int p.sitePrio ∧
      (∃ name, ad.evalAttr Attribute.subtaskName = .str name ∧
        Integer.ofInt? name.length = some p.subtaskNameLength) ∧
      ad.evalAttr Attribute.maxWallTime = .int p.wallMinutes ∧
      ad.evalAttr Attribute.requestDisk = .int p.diskKb := by
  have isInt : ∀ {v : Value} {i}, v.int? = some i → v = .int i := by
    intro v i read
    cases v <;> simp_all [Value.int?]
  have isText : ∀ {v : Value} {s}, v.str? = some s → v = .str s := by
    intro v s read
    cases v <;> simp_all [Value.str?]
  simp only [ofAd?, Option.bind_eq_bind, Option.bind_eq_some_iff, Option.pure_def,
    Option.some.injEq] at given
  obtain ⟨workflow, workflowRead, name, nameRead, length, fits, site, siteRead, wall, wallRead,
    disk, diskRead, rfl⟩ := given
  exact ⟨isInt workflowRead, isInt siteRead, ⟨name, isText nameRead, fits⟩, isInt wallRead,
    isInt diskRead⟩

end PriorityInputs

namespace JobAd

variable {ad : JobAd} {p : PriorityInputs}

theorem Saves.assign (saves : ad.Saves p) {name : String} (v : Value)
    (other : ∀ input ∈ Priority.inputs, Text.foldCase input ≠ Text.foldCase name) :
    (ad.assign name v).Saves p := by
  have kept : ∀ input ∈ Priority.inputs, (ad.assign name v).get? input = ad.get? input := by
    intro input listed
    rw [get?_assign, if_neg (other input listed)]
  constructor
  · rw [kept _ (by simp [Priority.inputs]), saves.workflowPrio]
  · rw [kept _ (by simp [Priority.inputs]), saves.sitePrio]
  · rw [kept _ (by simp [Priority.inputs])]
    exact saves.subtask
  · rw [kept _ (by simp [Priority.inputs]), saves.wallMinutes]
  · rw [kept _ (by simp [Priority.inputs]), saves.diskKb]

def saved (ad : JobAd) : JobAd :=
  (Mutation.copy Attribute.postJobPrio2 Attribute.agentPostJobPrio2).apply
    ((Mutation.copy Attribute.postJobPrio1 Attribute.agentPostJobPrio1).apply ad)

theorem saves_saved (literal : ad.Literal) (given : PriorityInputs.ofAd? ad = some p) :
    ad.saved.Saves p := by
  obtain ⟨workflow, site, ⟨name, subtask, fits⟩, wall, disk⟩ :=
    PriorityInputs.of_ofAd?_eq_some given
  have bound : ∀ {attr : String} {v : Value}, ad.evalAttr attr = v → v ≠ .undefined →
      ad.get? attr = some (.lit v) := by
    rintro attr _ rfl defined
    exact (literal.stores attr).get?_eq defined
  have first := bound site (by simp)
  have second : (ad.bind Attribute.agentPostJobPrio1 (.lit (.int p.sitePrio))).get?
      Attribute.postJobPrio2 = some (.lit (.int p.workflowPrio)) := by
    rw [get?_bind, if_neg (by decide +kernel), bound workflow (by simp)]
  have copied : ad.saved = (ad.bind Attribute.agentPostJobPrio1 (.lit (.int p.sitePrio))).bind
      Attribute.agentPostJobPrio2 (.lit (.int p.workflowPrio)) := by
    simp only [saved, Mutation.apply, first, second]
  have kept : ∀ attr ∈ [Attribute.subtaskName, Attribute.maxWallTime, Attribute.requestDisk],
      ad.saved.get? attr = ad.get? attr := by
    have apart : ∀ attr ∈ [Attribute.subtaskName, Attribute.maxWallTime, Attribute.requestDisk],
        Text.foldCase attr ≠ Text.foldCase Attribute.agentPostJobPrio1 ∧
          Text.foldCase attr ≠ Text.foldCase Attribute.agentPostJobPrio2 := by
      decide +kernel
    intro attr listed
    rw [copied, get?_bind, if_neg (apart attr listed).2, get?_bind, if_neg (apart attr listed).1]
  constructor
  · rw [copied, get?_bind, if_pos rfl]
  · rw [copied, get?_bind, if_neg (by decide +kernel), get?_bind, if_pos rfl]
  · rw [kept _ (by simp), bound subtask (by simp)]
    exact ⟨name, rfl, fits⟩
  · rw [kept _ (by simp), bound wall (by simp)]
  · rw [kept _ (by simp), bound disk (by simp)]

/-- The ad with both keys computed, the second beside the first, and with the priorities of the job
referring to them. -/
def ranked (ad : JobAd) (primary secondary : Value) : JobAd :=
  (((ad.assign Attribute.routerPostJobPrio1 primary).assign Attribute.routerPostJobPrio2
    secondary).bind Attribute.postJobPrio1 (.named Attribute.routerPostJobPrio1)).bind
      Attribute.postJobPrio2 (.named Attribute.routerPostJobPrio2)

theorem Saves.foldl_mutations (saves : ad.saved.Saves p) :
    correctionRule.mutations.foldl (fun ad m => m.apply ad) ad =
      ad.saved.ranked (.ofInt? p.primaryKey?) (.ofInt? p.secondaryKey?) := by
  have unread : ∀ input ∈ Priority.inputs,
      Text.foldCase input ≠ Text.foldCase Attribute.routerPostJobPrio1 := by
    decide +kernel
  let primary := ad.saved.eval Priority.primaryExpr
  let secondary := (ad.saved.assign Attribute.routerPostJobPrio1 primary).eval
    Priority.secondaryExpr
  have steps : correctionRule.mutations.foldl (fun ad m => m.apply ad) ad =
      ad.saved.ranked primary secondary := rfl
  have first : primary = .ofInt? p.primaryKey? := saves.eval_primaryExpr
  have second : secondary = .ofInt? p.secondaryKey? :=
    (saves.assign primary unread).eval_secondaryExpr
  rw [steps, first, second]

theorem get?_ranked (ad : JobAd) (primary secondary : Value) :
    let ranked := ad.ranked primary secondary
    ranked.get? Attribute.postJobPrio1 = some (.named Attribute.routerPostJobPrio1) ∧
      ranked.get? Attribute.postJobPrio2 = some (.named Attribute.routerPostJobPrio2) ∧
      ranked.get? Attribute.routerPostJobPrio1 = some (.lit primary) ∧
      ranked.get? Attribute.routerPostJobPrio2 = some (.lit secondary) ∧
      ranked.get? Attribute.agentPostJobPrio1 = ad.get? Attribute.agentPostJobPrio1 ∧
      ranked.get? Attribute.agentPostJobPrio2 = ad.get? Attribute.agentPostJobPrio2 := by
  have agents : ∀ agent ∈ [Attribute.agentPostJobPrio1, Attribute.agentPostJobPrio2],
      ∀ target ∈ [Attribute.routerPostJobPrio1, Attribute.routerPostJobPrio2,
        Attribute.postJobPrio1, Attribute.postJobPrio2],
          Text.foldCase agent ≠ Text.foldCase target := by
    decide +kernel
  have routers : ∀ router ∈ [Attribute.routerPostJobPrio1, Attribute.routerPostJobPrio2],
      ∀ target ∈ [Attribute.postJobPrio1, Attribute.postJobPrio2],
        Text.foldCase router ≠ Text.foldCase target := by
    decide +kernel
  have kept : ∀ agent ∈ [Attribute.agentPostJobPrio1, Attribute.agentPostJobPrio2],
      (ad.ranked primary secondary).get? agent = ad.get? agent := by
    intro agent listed
    rw [ranked, get?_bind, if_neg (agents agent listed _ (by simp)),
      get?_bind, if_neg (agents agent listed _ (by simp)),
      get?_assign, if_neg (agents agent listed _ (by simp)),
      get?_assign, if_neg (agents agent listed _ (by simp))]
  refine ⟨?_, ?_, ?_, ?_, kept _ (by simp), kept _ (by simp)⟩
  · rw [ranked, get?_bind, if_neg (by decide +kernel), get?_bind, if_pos rfl]
  · rw [ranked, get?_bind, if_pos rfl]
  · rw [ranked, get?_bind, if_neg (routers _ (by simp) _ (by simp)),
      get?_bind, if_neg (routers _ (by simp) _ (by simp)),
      get?_assign, if_neg (by decide +kernel), get?_assign, if_pos rfl]
  · rw [ranked, get?_bind, if_neg (routers _ (by simp) _ (by simp)),
      get?_bind, if_neg (routers _ (by simp) _ (by simp)), get?_assign, if_pos rfl]

end JobAd

/-- The priorities of a job are its keys, and those of the agent are at hand. A key that 64 bits do
not hold is error. -/
structure PriorityInputs.ShownBy (p : PriorityInputs) (ad : JobAd) : Prop where
  primary : ∀ key, p.primaryKey? = some key → ad.evalAttr Attribute.postJobPrio1 = .int key
  noPrimary : p.primaryKey? = none → ad.evalAttr Attribute.postJobPrio1 = .error
  secondary : ∀ key, p.secondaryKey? = some key → ad.evalAttr Attribute.postJobPrio2 = .int key
  noSecondary : p.secondaryKey? = none → ad.evalAttr Attribute.postJobPrio2 = .error
  sitePrio : ad.evalAttr Attribute.agentPostJobPrio1 = .int p.sitePrio
  workflowPrio : ad.evalAttr Attribute.agentPostJobPrio2 = .int p.workflowPrio

theorem Compile.Ranking.shownBy_apply_correctionRule {ad : JobAd} {p : PriorityInputs}
    (literal : ad.Literal) (given : PriorityInputs.ofAd? ad = some p) :
    p.ShownBy (correctionRule.apply ad) := by
  have saves := JobAd.saves_saved literal given
  have shown : ∀ name, Text.sameIgnoringCase Marker.hasPrioCorrection name = false ∧
      Text.sameIgnoringCase Marker.hasBeenRouted name = false →
        (correctionRule.apply ad).get? name =
          (ad.saved.ranked (.ofInt? p.primaryKey?) (.ofInt? p.secondaryKey?)).get? name := by
    intro name other
    have unmarked : (correctionRule.markers.any fun m => Text.sameIgnoringCase m.flag name) =
        false :=
      Rule.any_markers_make_eq_false other.1 other.2
    rw [Rule.get?_apply_of_unmarked ad unmarked, saves.foldl_mutations]
  obtain ⟨first, second, primary, secondary, site, workflow⟩ :=
    ad.saved.get?_ranked (.ofInt? p.primaryKey?) (.ofInt? p.secondaryKey?)
  rw [← shown _ (by decide +kernel)] at first second primary secondary site workflow
  rw [saves.sitePrio] at site
  rw [saves.workflowPrio] at workflow
  have key := JobAd.evalAttr_of_named first primary
  have key' := JobAd.evalAttr_of_named second secondary
  constructor
  · intro k fits
    rw [key, fits]
    rfl
  · intro missing
    rw [key, missing]
    rfl
  · intro k fits
    rw [key', fits]
    rfl
  · intro missing
    rw [key', missing]
    rfl
  · exact JobAd.evalAttr_of_lit site
  · exact JobAd.evalAttr_of_lit workflow

namespace Policy

/-- Every policy makes one rule that corrects priorities, and it leaves a job with the keys that its
inputs have. -/
theorem correction_shows_keys (p : Policy) (options : CompileOptions) {document : Json} {ad : JobAd}
    {inputs : PriorityInputs} (read : JobAd.ofJson document = .ok ad)
    (given : PriorityInputs.ofAd? ad = some inputs) :
    ∃ r, (p.compile options).rules.ofCategory .priorityCorrection = [r] ∧
      r.name = "Prio Corrections" ∧ inputs.ShownBy (r.apply ad) := by
  refine ⟨correctionRule, ?_, rfl, ?_⟩
  · rw [ofCategory_compile]
    rfl
  · exact shownBy_apply_correctionRule (JobAd.literal_of_ofJson read) given

/-- A priority that is too high has no first key, but the job keeps its second one. -/
theorem correction_shows_keys_of_highest :
    let document : Json := .object [("MaxWallTimeMins", .ofInt 480), ("PostJobPrio1", .ofInt (-3)),
      ("PostJobPrio2", .ofInt Int64.maxValue.toInt), ("RequestDisk", .ofInt 5500000),
      ("WMAgent_SubTaskName", .string "/wf/A")]
    let inputs : PriorityInputs := ⟨Int64.maxValue, 5, -3, 480, 5500000⟩
    ∃ ad, JobAd.ofJson document = .ok ad ∧ PriorityInputs.ofAd? ad = some inputs ∧
      inputs.primaryKey? = none ∧ inputs.secondaryKey? = some (-485) ∧
      ∃ r, (Policy.empty.compile .standard).rules.ofCategory .priorityCorrection = [r] ∧
        (r.apply ad).evalAttr Attribute.postJobPrio1 = .error ∧
        (r.apply ad).evalAttr Attribute.postJobPrio2 = .int (-485) := by
  intro document inputs
  obtain ⟨ad, read, given⟩ : ∃ ad, JobAd.ofJson document = .ok ad ∧
      PriorityInputs.ofAd? ad = some inputs :=
    ⟨_, rfl, by decide +kernel⟩
  have first : inputs.primaryKey? = none := by decide +kernel
  have second : inputs.secondaryKey? = some (-485) := by decide +kernel
  obtain ⟨r, compiled, _, shown⟩ := correction_shows_keys .empty .standard read given
  exact ⟨ad, read, given, first, second, r, compiled, shown.noPrimary first,
    shown.secondary _ second⟩

end Policy

end RoutingPolicy

import RoutingPolicy.Proofs.Ad.Folding
import RoutingPolicy.Proofs.Collections.Values
import RoutingPolicy.Router.Run

/-!
# What a rule does, however it is written

A rule has a name, a condition and steps: the changes that it makes, one after the other, where a
marker is the change that binds its flag to a truth value. Which category it belongs to, how its
conditions are nested and where the changes end and the markers begin has no effect on any job, and
neither has a minus sign that may belong to a number. So on ads whose expressions are folded, the
content of a rule does what the rule does, and rule sets with the same contents have the same runs.
-/

set_option autoImplicit false

namespace RoutingPolicy

/-! ### Ads whose expressions are folded -/

namespace JobAd

def folded (ad : JobAd) : JobAd where
  entries := ad.entries.mapValues fun b => ⟨b.name, b.expr.folded⟩
  keyed := by
    intro entry member
    rw [SortedMap.entries_mapValues] at member
    rcases List.mem_map.1 member with ⟨original, listed, rfl⟩
    exact ad.keyed original listed

theorem eq_of_entries {ad other : JobAd}
    (same : ∀ key, ad.entries.get? key = other.entries.get? key) : ad = other := by
  have equal : ad.entries = other.entries := SortedMap.ext_get? same
  cases ad
  cases other
  cases equal
  rfl

theorem get?_entries_folded (ad : JobAd) (key : String) :
    ad.folded.entries.get? key =
      (ad.entries.get? key).map fun b => ⟨b.name, b.expr.folded⟩ :=
  ad.entries.get?_mapValues key

theorem get?_folded (ad : JobAd) (name : String) :
    ad.folded.get? name = (ad.get? name).map Expr.folded := by
  rw [get?, get?, get?_entries_folded, Option.map_map, Option.map_map]
  rfl

theorem folded_bind (ad : JobAd) (name : String) (e : Expr) :
    (ad.bind name e).folded = ad.folded.bind name e.folded := by
  apply eq_of_entries
  intro key
  rw [get?_entries_folded, bind, bind, SortedMap.get?_insert, SortedMap.get?_insert,
    get?_entries_folded]
  split <;> rfl

theorem folded_erase (ad : JobAd) (name : String) :
    (ad.erase name).folded = ad.folded.erase name := by
  apply eq_of_entries
  intro key
  rw [get?_entries_folded, erase, erase, SortedMap.get?_erase, SortedMap.get?_erase,
    get?_entries_folded]
  split <;> rfl

theorem readAt_folded (ad : JobAd) (depth : Nat) : ad.folded.readAt depth = ad.readAt depth := by
  induction depth with
  | zero => rfl
  | succ depth induction =>
      funext name
      rw [readAt, readAt, get?_folded, induction]
      cases ad.get? name with
      | none => rfl
      | some e => exact Expr.evalIn_folded _ e

theorem folded_eval (ad : JobAd) (e : Expr) : ad.folded.eval e = ad.eval e := by
  rw [eval, eval, readAt_folded]

theorem names_folded (ad : JobAd) :
    ad.folded.toList.map Binding.name = ad.toList.map Binding.name := by
  simp only [toList, SortedMap.values, folded, SortedMap.entries_mapValues, List.map_map]
  rfl

end JobAd

/-! ### Steps -/

namespace Mutation

def folded : Mutation → Mutation
  | copy source destination => copy source destination
  | set attr e => set attr e.folded
  | evalSet attr e => evalSet attr e.folded
  | delete attr => delete attr

theorem folded_apply (m : Mutation) (ad : JobAd) :
    (m.apply ad).folded = m.folded.apply ad.folded := by
  cases m with
  | copy source destination =>
      simp only [apply, folded, JobAd.get?_folded]
      cases ad.get? source with
      | none => rfl
      | some e => exact ad.folded_bind destination e
  | set attr e => exact ad.folded_bind attr e
  | evalSet attr e =>
      simp only [apply, folded, JobAd.assign, JobAd.folded_bind, JobAd.folded_eval,
        JobAd.eval_folded, Expr.folded]
  | delete attr => exact ad.folded_erase attr

theorem folded_foldl (steps : List Mutation) (ad : JobAd) :
    (steps.foldl (fun ad m => m.apply ad) ad).folded =
      (steps.map folded).foldl (fun ad m => m.apply ad) ad.folded := by
  induction steps generalizing ad with
  | nil => rfl
  | cons m rest induction =>
      rw [List.foldl_cons, induction, folded_apply, List.map_cons, List.foldl_cons]

end Mutation

def MarkerUpdate.step (m : MarkerUpdate) : Mutation := .set m.flag (.bool m.value)

/-- What a rule does, without how it is written. -/
structure RuleContent where
  name : String
  /-- The conjunction of the conditions, folded. -/
  condition : Expr
  /-- The changes and then the markers, in order, their expressions folded. -/
  steps : List Mutation

namespace RuleContent

def holds (content : RuleContent) (ad : JobAd) : Bool := (ad.eval content.condition).isTrue

def apply (content : RuleContent) (ad : JobAd) : JobAd :=
  content.steps.foldl (fun ad m => m.apply ad) ad

end RuleContent

namespace Rule

def steps (r : Rule) : List Mutation := r.mutations ++ r.markers.map MarkerUpdate.step

def content (r : Rule) : RuleContent :=
  ⟨r.name, r.guard.expr.folded, r.steps.map Mutation.folded⟩

theorem apply_eq_foldl_steps (r : Rule) (ad : JobAd) :
    r.apply ad = r.steps.foldl (fun ad m => m.apply ad) ad := by
  rw [steps, List.foldl_append, List.foldl_map]
  rfl

theorem folded_apply (r : Rule) (ad : JobAd) : (r.apply ad).folded = r.content.apply ad.folded := by
  rw [apply_eq_foldl_steps, Mutation.folded_foldl]
  rfl

theorem matchesAd_eq_holds (r : Rule) (ad : JobAd) :
    r.matchesAd ad = r.content.holds ad.folded := by
  rw [matchesAd, Guard.holds, Guard.eval, RuleContent.holds, JobAd.folded_eval, content,
    JobAd.eval_folded]

end Rule

/-! ### Runs -/

namespace RuleSet

def contents (s : RuleSet) : List RuleContent := s.rules.map Rule.content

theorem map_firstMatch? (s : RuleSet) (ad : JobAd) :
    (s.firstMatch? ad).map Rule.content = s.contents.find? (·.holds ad.folded) := by
  have tests : (fun r : Rule => r.matchesAd ad) =
      (fun content => content.holds ad.folded) ∘ Rule.content := by
    funext r
    exact r.matchesAd_eq_holds ad
  rw [firstMatch?, contents, List.find?_map, tests]

theorem map_firstMatch?_congr {s t : RuleSet} (same : s.contents = t.contents) {ad other : JobAd}
    (alike : ad.folded = other.folded) :
    (s.firstMatch? ad).map Rule.content = (t.firstMatch? other).map Rule.content := by
  rw [map_firstMatch?, map_firstMatch?, same, alike]

/-- Rule sets with the same contents have the same runs, on ads that are the same when folded. -/
theorem run_congr {s t : RuleSet} (same : s.contents = t.contents) {ad other : JobAd}
    (alike : ad.folded = other.folded) (limit : Nat) :
    (s.run limit ad).1 = (t.run limit other).1 ∧
      (s.run limit ad).2.folded = (t.run limit other).2.folded := by
  induction limit generalizing ad other with
  | zero =>
      have isNone := congrArg Option.isNone (map_firstMatch?_congr same alike)
      rw [Option.isNone_map, Option.isNone_map] at isNone
      exact ⟨congrArg (Trace.mk []) isNone, alike⟩
  | succ limit induction =>
      have first := map_firstMatch?_congr same alike
      simp only [run, cycle?]
      cases found : s.firstMatch? ad with
      | none =>
          rw [found, Option.map_none, eq_comm, Option.map_eq_none_iff] at first
          rw [first]
          exact ⟨rfl, alike⟩
      | some r =>
          rw [found, Option.map_some, eq_comm, Option.map_eq_some_iff] at first
          rcases first with ⟨r', found', content⟩
          have applied : (r.apply ad).folded = (r'.apply other).folded := by
            rw [Rule.folded_apply, Rule.folded_apply, content, alike]
          have named : r'.name = r.name := congrArg RuleContent.name content
          have later := induction applied
          rw [found']
          simp only [Option.map_some, named]
          exact ⟨by rw [later.1], later.2⟩

end RuleSet

end RoutingPolicy

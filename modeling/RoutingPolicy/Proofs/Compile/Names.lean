import RoutingPolicy.Proofs.Ad.ValueReader
import RoutingPolicy.Proofs.Compile.OverflowPartition
import RoutingPolicy.Proofs.Compile.Precedence
import RoutingPolicy.Proofs.Router.Composition

/-!
# Names of compiled rules

The names of the rules of a family begin with one stem, and no stem begins another one, so a name
tells its family whatever the policy puts behind the stem. Within a family the name tells what the
rule was made for, and no family makes two rules for the same. So no two compiled rules have one
name: a rule is found by its name, and a trace of names is a trace of rules.
-/

namespace RoutingPolicy

set_option autoImplicit false

open Compile Compile.Overflow Compile.Hold Compile.Ranking Compile.Correction

/-! ### Numbers within a text -/

namespace Integer

theorem splitSign_intText_append (i : Int) (rest : List Char) :
    splitSign ((intText i).toList ++ rest) =
      (decide (i < 0), Nat.toDigits 10 i.natAbs ++ rest) := by
  obtain ⟨c, cs, digits, digit⟩ := Value.begins_toDigits i.natAbs
  rw [Value.toList_intText, digits, List.append_assoc, List.cons_append,
    Value.splitSign_signChars digit]

theorem text_append_inj {i j : Int64} {rest rest' : String}
    (stops : ∀ c ∈ rest.toList.head?, c.isDigit = false)
    (stops' : ∀ c ∈ rest'.toList.head?, c.isDigit = false)
    (same : text i ++ rest = text j ++ rest') : i = j ∧ rest = rest' := by
  have digits (n : Nat) : ∀ c ∈ Nat.toDigits 10 n, c.isDigit = true := fun c listed =>
    Nat.isDigit_of_mem_toDigits (by decide) (by decide) listed
  have split := congrArg (fun s => splitSign s.toList) same
  simp only [text, String.toList_append, splitSign_intText_append, Prod.mk.injEq,
    decide_eq_decide] at split
  obtain ⟨signs, tails⟩ := split
  obtain ⟨numbers, ends⟩ := Text.append_inj_of_stops (digits _) (digits _) stops stops' tails
  have sizes := congrArg readDigits? numbers
  rw [readDigits?_toDigits, readDigits?_toDigits, Option.some.injEq] at sizes
  exact ⟨Int64.toInt_inj.1 (by omega), String.toList_inj.1 ends⟩

end Integer

theorem ResizePolicy.ruleName_injective : Function.Injective ruleName := by
  intro policy policy' same
  unfold ruleName at same
  simp only [String.append_assoc, String.append_right_inj] at same
  obtain ⟨fewest, same⟩ := Integer.text_append_inj (by simp) (by simp) same
  rw [String.append_right_inj] at same
  obtain ⟨most, same⟩ := Integer.text_append_inj (by simp) (by simp) same
  rw [String.append_right_inj] at same
  obtain ⟨memory, -⟩ := Integer.text_append_inj (by simp) (by simp) same
  cases policy
  cases policy'
  simp_all

/-! ### Families -/

namespace Family

/-- What the names of the rules of a family begin with. -/
def stem : Family → String
  | replacement => "Site Replacement for "
  | master => "Master overflow rule to run at "
  | sort => "Sort Ads"
  | correction => "Prio Corrections"
  | memory => "Set memory requirement to "
  | time => "Set timing requirement to "
  | slope => "Set memory per thread requirement to "
  | read => "Set read requirement to "
  | resize => "Resize Jobs ("
  | hold => "Holding tasks"
  | release => "Releasing tasks"
  | holdSite => "Holding jobs from "
  | releaseSite => "Releasing jobs for "
  | raise => "Raising to highprio group"
  | drain => "Drain agent "
  | memoryFix => "Correcting memory requirement of 2"
  | t0Memory => "Correcting memory requirement of 15200 for T0"
  | t0Spill => "Draining T0 VMs"
  | multicore => "Routing multicore job from IFCA to other sites"
  | wallTime => "Shortening long job on KIT"
  | reset => "Reset routing for "

/-- No stem begins another one, so a text begins with one stem at most. -/
theorem eq_of_stem {f g : Family} {name : String} (own : f.stem.toList <+: name.toList)
    (other : g.stem.toList <+: name.toList) : f = g := by
  have apart : ∀ f ∈ all, ∀ g ∈ all, f.stem.toList <+: g.stem.toList → f = g := by
    decide +kernel
  rcases List.prefix_or_prefix_of_prefix own other with begins | begins
  · exact apart f f.mem_all g g.mem_all begins
  · exact (apart g g.mem_all f f.mem_all begins).symm

theorem stem_append {stem : String} (front rest : String)
    (begins : stem.toList <+: front.toList) : stem.toList <+: (front ++ rest).toList := by
  rw [String.toList_append]
  exact begins.trans (List.prefix_append _ _)

theorem stem_replacementRule (task : String) (sites : List SiteName) :
    replacement.stem.toList <+: (replacementRule task sites).name.toList :=
  stem_append _ _ List.prefix_rfl

theorem stem_masterRule (group : SiteMapGroup) (selector : Expr) :
    master.stem.toList <+: (masterRule group selector).name.toList :=
  stem_append _ " in addition" (stem_append _ _ List.prefix_rfl)

end Family

namespace Policy

variable {p : Policy} {options : CompileOptions} {f g : Family} {r r' : Rule}

open Family (stem_append)

theorem stem_of_mem_fixes (listed : (f, r) ∈ fixes) : f.stem.toList <+: r.name.toList := by
  rcases of_mem_fixes listed with ⟨rfl, rfl⟩ | ⟨rfl, rfl⟩ | ⟨rfl, rfl⟩ | ⟨rfl, rfl⟩ | ⟨rfl, rfl⟩ |
    ⟨rfl, rfl⟩
  · decide +kernel
  · decide +kernel
  all_goals exact List.prefix_rfl

theorem Makes.stem (makes : p.Makes options f r) : f.stem.toList <+: r.name.toList := by
  cases makes with
  | replacement _ _ _ _ => exact Family.stem_replacementRule _ _
  | master _ _ _ => exact Family.stem_masterRule _ _
  | sort _ => exact List.prefix_rfl
  | correction => exact List.prefix_rfl
  | tuning tuned _ _ =>
      apply stem_append _ (Integer.text _)
      rcases of_mem_tunings tuned with ⟨rfl, rfl, _⟩ | ⟨rfl, rfl, _⟩ | ⟨rfl, rfl, _⟩ |
        ⟨rfl, rfl, _⟩ <;> decide +kernel
  | resize _ _ =>
      iterate 6 apply stem_append
      exact List.prefix_rfl
  | hold _ => exact List.prefix_rfl
  | release _ => exact List.prefix_rfl
  | holdSite _ => exact stem_append _ _ List.prefix_rfl
  | releaseSite _ => exact stem_append _ _ List.prefix_rfl
  | raise _ => exact List.prefix_rfl
  | drain _ _ => exact stem_append _ _ List.prefix_rfl
  | fix _ listed => exact stem_of_mem_fixes listed
  | reset _ => exact stem_append _ _ List.prefix_rfl

theorem Makes.eq_of_name_eq (makes : p.Makes options f r) (makes' : p.Makes options g r')
    (same : r.name = r'.name) : f = g := by
  have other := makes'.stem
  rw [← same] at other
  exact Family.eq_of_stem makes.stem other

end Policy

/-! ### Names within a category -/

namespace Rule

variable {Item Key : Type} {items : List Item} {nameOf : Key → String}

/-- Rules that come from different keys have different names, if these name the keys. -/
theorem nodup_names_filterMap {rule? : Item → Option Rule} {key : Item → Key}
    (distinct : items.Pairwise fun i j => key i ≠ key j)
    (named : ∀ i r, rule? i = some r → r.name = nameOf (key i))
    (injective : Function.Injective nameOf) :
    ((items.filterMap rule?).map (·.name)).Nodup := by
  rw [List.Nodup, List.pairwise_map, List.pairwise_filterMap]
  apply distinct.imp
  intro i j different r made r' made' same
  rw [named i r made, named j r' made'] at same
  exact different (injective same)

theorem nodup_names_map {rule : Key → Rule} {keys : List Key} (distinct : keys.Nodup)
    (injective : Function.Injective fun k => (rule k).name) :
    ((keys.map rule).map (·.name)).Nodup := by
  rw [List.map_map]
  exact distinct.map injective

theorem nodup_names_toList (made : Option Rule) : (made.toList.map (·.name)).Nodup := by
  cases made <;> simp

end Rule

theorem injective_append (front : String) : Function.Injective fun text => front ++ text :=
  fun _ _ same => (String.append_right_inj front).1 same

namespace Overflow

theorem nodup_names (o : Overflow) : ((Compiled.rules o.compile).map (·.name)).Nodup := by
  rw [rules_compile_eq_map, List.map_append, List.nodup_append']
  refine ⟨?_, ?_, ?_⟩
  · have named := o.nodup_replacements.map (injective_append "Site Replacement for ")
    rwa [List.map_map] at named ⊢
  · rw [List.map_map, List.Nodup, List.pairwise_map]
    apply (o.claims.groups.distinct_keys.filter _).imp
    intro group group' different same
    exact different (masterName_injective same)
  · intro name replaced mastered
    simp only [List.mem_map] at replaced mastered
    obtain ⟨_, ⟨entry, -, rfl⟩, rfl⟩ := replaced
    obtain ⟨_, ⟨group, -, rfl⟩, same⟩ := mastered
    have begins := Family.stem_masterRule ⟨group.1, group.2, o.destinations.scoped group.1⟩
      (taskSelector group.2)
    rw [same] at begins
    cases Family.eq_of_stem (Family.stem_replacementRule entry.1 entry.2) begins

end Overflow

theorem Tuning.nodup_names (t : Tuning) (thresholds : ThresholdMap) :
    ((Compiled.rules (t.compile thresholds)).map (·.name)).Nodup := by
  rw [rules_compile]
  apply Rule.nodup_names_filterMap thresholds.groups.distinct_keys _ t.ruleName_injective
  intro group r made
  obtain ⟨selector, -, rfl⟩ := Option.map_eq_some_iff.1 made
  rfl

theorem ResizePolicy.nodup_names (resizing : SortedMap String ResizePolicy) :
    ((Compiled.rules (compile resizing)).map (·.name)).Nodup := by
  rw [rules_compile]
  apply Rule.nodup_names_filterMap (group resizing).distinct_keys _ ruleName_injective
  intro group r made
  obtain ⟨selector, -, rfl⟩ := Option.map_eq_some_iff.1 made
  rfl

namespace Compile.Correction

theorem nodup_addFlag {flags : List String} (distinct : flags.Nodup) (flag : String) :
    (addFlag flags flag).Nodup := by
  rw [addFlag]
  split
  · exact distinct
  · next new =>
      refine List.nodup_append'.2 ⟨distinct, List.nodup_singleton flag, ?_⟩
      intro known listed own
      obtain rfl := List.mem_singleton.1 own
      exact new (List.any_eq_true.2 ⟨known, listed, Text.sameIgnoringCase_refl known⟩)

theorem nodup_foldl_addFlag {flags : List String} (distinct : flags.Nodup) (more : List String) :
    (more.foldl addFlag flags).Nodup := by
  induction more generalizing flags with
  | nil => exact distinct
  | cons flag rest induction => exact induction (nodup_addFlag distinct flag)

theorem nodup_distinctFlags (flags : List String) : (distinctFlags flags).Nodup :=
  nodup_foldl_addFlag List.nodup_nil flags

end Compile.Correction

theorem nodup_validSites (texts : List String) : (validSites texts).Nodup :=
  nodup_addAllNew List.nodup_nil

namespace Policy

variable {p : Policy} {options : CompileOptions} {f g : Family} {r r' : Rule}

theorem nodup_names_entries (p : Policy) (options : CompileOptions) (category : Category) :
    ((Compiled.rules (p.entries options category)).map (·.name)).Nodup := by
  cases category with
  | overflow => exact p.overflow.nodup_names
  | sortWhitelist =>
      rw [entries, rules_sort]
      split <;> simp
  | priorityCorrection => exact List.nodup_singleton _
  | memory => exact Tuning.nodup_names _ _
  | time => exact Tuning.nodup_names _ _
  | slope => exact Tuning.nodup_names _ _
  | resize => exact ResizePolicy.nodup_names _
  | read => exact Tuning.nodup_names _ _
  | hold =>
      rw [entries, rules_compileHold]
      exact Rule.nodup_names_toList _
  | release =>
      rw [entries, compileRelease, rules_taskEntries]
      exact Rule.nodup_names_toList _
  | holdSite =>
      rw [entries, rules_compileHoldSite]
      exact Rule.nodup_names_map ((nodup_validSites _).filter _) fun _ _ => siteName_eq_of_append
  | releaseSite =>
      rw [entries, rules_compileReleaseSite]
      exact Rule.nodup_names_map (nodup_validSites _) fun _ _ => siteName_eq_of_append
  | priorityRaise =>
      rw [entries, rules_raise]
      exact Rule.nodup_names_toList _
  | drain =>
      rw [entries, rules_drain]
      exact Rule.nodup_names_map ((nodup_addAllNew List.nodup_nil).filter _)
        (injective_append "Drain agent ")
  | adHoc =>
      rw [entries, rules_adhoc]
      split
      · decide +kernel
      · exact List.nodup_nil
  | reset =>
      rw [entries, rules_reset]
      exact Rule.nodup_names_map (nodup_distinctFlags _)
        (injective_append "Reset routing for ")

theorem nodup_names (p : Policy) (options : CompileOptions) :
    ((p.compile options).rules.rules.map (·.name)).Nodup := by
  rw [compile, List.map_flatMap, List.nodup_flatMap]
  refine ⟨fun category _ => p.nodup_names_entries options category, ?_⟩
  apply Category.nodup_emissionOrder.imp
  intro category category' different name listed listed'
  obtain ⟨r, member, rfl⟩ := List.mem_map.1 listed
  obtain ⟨r', member', same⟩ := List.mem_map.1 listed'
  obtain ⟨f, rfl, makes⟩ := makes_of_mem_rules member
  obtain ⟨g, rfl, makes'⟩ := makes_of_mem_rules member'
  exact different (congrArg Family.category (makes.eq_of_name_eq makes' same.symm))

end Policy

/-! ### Rules by their names -/

namespace RuleSet

variable {s : RuleSet} {r : Rule} {limit : Nat} {ad : JobAd}

theorem get?_eq_some_iff (distinct : (s.rules.map (·.name)).Nodup) {name : String} :
    s.get? name = some r ↔ r ∈ s.rules ∧ r.name = name := by
  constructor
  · intro found
    exact ⟨List.mem_of_find?_eq_some found, by simpa using List.find?_some found⟩
  · rintro ⟨listed, rfl⟩
    cases found : s.get? r.name with
    | none => simpa using List.find?_eq_none.1 found r listed
    | some other =>
        have same : other.name = r.name := by simpa using List.find?_some found
        have member := List.mem_of_find?_eq_some found
        rw [List.inj_on_of_nodup_map distinct member listed same]

theorem map_get?_fired_run (distinct : (s.rules.map (·.name)).Nodup) (limit : Nat) (ad : JobAd) :
    (s.run limit ad).1.fired.map s.get? = (s.firedRules limit ad).map some := by
  rw [fired_run, List.map_map]
  refine List.map_congr_left fun r applied => ?_
  exact (get?_eq_some_iff distinct).2 ⟨mem_rules_of_mem_firedRules applied, rfl⟩

/-- A rule is known by its name, and what a run has applied by the names in its trace. -/
structure NamesIdentify (s : RuleSet) : Prop where
  distinct : s.rules.Pairwise fun r r' => r.name ≠ r'.name
  get?_iff : ∀ name r, s.get? name = some r ↔ r ∈ s.rules ∧ r.name = name
  /-- Looking up the names of a trace gives the rules of the run and no others. -/
  traced_iff : ∀ limit ad fired after, s.IsRun limit ad fired after ↔
    (s.run limit ad).1.fired.map s.get? = fired.map some ∧ after = (s.run limit ad).2

theorem namesIdentify_of_nodup (distinct : (s.rules.map (·.name)).Nodup) : s.NamesIdentify where
  distinct := List.pairwise_map.1 distinct
  get?_iff _ _ := get?_eq_some_iff distinct
  traced_iff := by
    intro limit ad fired after
    rw [map_get?_fired_run distinct]
    constructor
    · intro isRun
      obtain ⟨rfl, rfl⟩ := isRun.eq_firedRules
      exact ⟨rfl, rfl⟩
    · rintro ⟨same, rfl⟩
      obtain rfl := List.map_injective_iff.2 (Option.some_injective Rule) same
      exact s.isRun_firedRules limit ad

end RuleSet

theorem Policy.names_identify (p : Policy) (options : CompileOptions) :
    (p.compile options).rules.NamesIdentify :=
  RuleSet.namesIdentify_of_nodup (p.nodup_names options)

end RoutingPolicy

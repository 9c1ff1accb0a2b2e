import RoutingPolicy.Proofs.Compile.Family
import RoutingPolicy.Proofs.Rule.SiteMarker

/-!
# Who writes which attribute

Apart from the flag that every rule clears and from the flags of resets, a rule writes the
attributes that the table of its family lists, and a rule on a site also the marker of that site.
Markers of sites begin like no attribute of the table, whatever the site. So an attribute is kept by
every family whose table does not list it, and a finite check settles who else writes it.
-/

namespace RoutingPolicy

set_option autoImplicit false

open Compile Compile.Overflow Compile.Hold Compile.Ranking Compile.Correction

/-! ### The table -/

namespace Family

open Attribute Marker in
/-- What the rules of a family write, but for what depends on the policy and for the flag that every
rule clears. -/
def writes : Family → List String
  | replacement => [desiredSites, rank, hasBeenReplaced]
  | master => [preDesiredSites, desiredSites, rank, hasBeenRoutedOverflow]
  | sort => [prevDesiredSites, desiredSites, hasBeenSorted]
  | correction =>
      [agentPostJobPrio1, agentPostJobPrio2, routerPostJobPrio1, routerPostJobPrio2, postJobPrio1,
        postJobPrio2, hasPrioCorrection]
  | memory => [originalMemory, hasBeenMemoryTuned]
  | time => [estimatedSingleCoreMins, originalMaxWallTime, hasBeenTimingTuned]
  | slope => [extraMemory, hasBeenSlopeTuned]
  | read => [estimatedInputRate, hasBeenReadTuned]
  | resize => [minCores, maxCores, extraMemory, resizeJob]
  | hold => [heldDesiredSites, desiredSites, hasBeenSetHeld]
  | release => [desiredSites, heldDesiredSites, hasBeenSetHeld]
  | holdSite => [holdingDesiredSites, desiredSites]
  | releaseSite => [releasingDesiredSites, desiredSites, releasingDesiredSites]
  | raise => [accountingGroup, hasBeenRaisedHighPrio]
  | drain => [jobPrio]
  | memoryFix => [originalMemory]
  | t0Memory => [originalMemory]
  | t0Spill => [t0OffDesiredSites, desiredSites, outOfT0]
  | multicore => [desiredSites]
  | wallTime => [originalMaxWallTime, estimatedSingleCoreMins]
  | reset => []

def mayWrite (f : Family) (name : String) : Bool :=
  (Marker.hasBeenRouted :: f.writes).any fun target => Text.sameIgnoringCase target name

def all : List Family :=
  [replacement, master, sort, correction, memory, time, slope, resize, read, hold, release,
    holdSite, releaseSite, raise, drain, memoryFix, t0Memory, t0Spill, multicore, wallTime, reset]

theorem mem_all (f : Family) : f ∈ all := by
  cases f <;> decide

def siteWriters : List Family :=
  [replacement, master, sort, hold, release, holdSite, releaseSite, t0Spill, multicore]

/-- The families that write an attribute, for the attributes that conditions of rules depend on. -/
def writers : List (String × List Family) :=
  [(Marker.hasBeenReplaced, [replacement]), (Marker.hasBeenRoutedOverflow, [master]),
    (Marker.hasBeenSorted, [sort]), (Marker.hasPrioCorrection, [correction]),
    (Marker.hasBeenMemoryTuned, [memory]), (Marker.hasBeenTimingTuned, [time]),
    (Marker.hasBeenSlopeTuned, [slope]), (Marker.hasBeenReadTuned, [read]),
    (Marker.resizeJob, [resize]), (Marker.hasBeenSetHeld, [hold, release]),
    (Marker.hasBeenRaisedHighPrio, [raise]), (Marker.outOfT0, [t0Spill]),
    (Attribute.jobPrio, [drain]), (Attribute.subtaskName, []),
    (Attribute.originalMemory, [memory, memoryFix, t0Memory]),
    (Attribute.originalMaxWallTime, [time, wallTime]),
    (Attribute.estimatedSingleCoreMins, [time, wallTime]), (Attribute.extraMemory, [slope, resize]),
    (Attribute.estimatedInputRate, [read]), (Attribute.releasingDesiredSites, [releaseSite]),
    (Attribute.heldDesiredSites, [hold, release]), (Attribute.desiredSites, siteWriters)]

/-- No attribute of the tables is the marker of a site, and who writes one is what they say. -/
theorem tables :
    (∀ f ∈ all, ∀ target ∈ Marker.hasBeenRouted :: f.writes, Marker.isHeldFrom target = false) ∧
      ∀ entry ∈ writers, Marker.isHeldFrom entry.1 = false ∧
        Text.sameIgnoringCase Marker.hasBeenRouted entry.1 = false ∧
          ∀ f ∈ all, f.mayWrite entry.1 = decide (f ∈ entry.2) := by
  decide +kernel

variable {f : Family} {name name' : String} {families families' : List Family}

theorem isHeldFrom_writes {target : String} (listed : target ∈ Marker.hasBeenRouted :: f.writes) :
    Marker.isHeldFrom target = false :=
  tables.1 f f.mem_all target listed

theorem isHeldFrom_writers (listed : (name, families) ∈ writers) :
    Marker.isHeldFrom name = false :=
  (tables.2 _ listed).1

theorem mayWrite_writers (listed : (name, families) ∈ writers) :
    f.mayWrite name = decide (f ∈ families) :=
  (tables.2 _ listed).2.2 f f.mem_all

theorem unrouted_writers (listed : name ∈ writers.map Prod.fst) :
    Text.sameIgnoringCase Marker.hasBeenRouted name = false := by
  rcases List.mem_map.1 listed with ⟨entry, member, rfl⟩
  exact (tables.2 entry member).2.1

theorem apart_writers (listed : (name, families) ∈ writers)
    (listed' : (name', families') ∈ writers) (own : f ∈ families) (other : f ∉ families') :
    Text.sameIgnoringCase name name' = false := by
  rw [Bool.eq_false_iff]
  intro same
  have again : f.mayWrite name = f.mayWrite name' := by
    simp only [mayWrite, Text.sameIgnoringCase, Text.sameIgnoringCase_iff.1 same]
  rw [mayWrite_writers listed, mayWrite_writers listed', decide_eq_decide] at again
  exact other (again.1 own)

theorem foldCase_subtaskName_ne (listed : (name, f :: families) ∈ writers) :
    Text.foldCase Attribute.subtaskName ≠ Text.foldCase name := by
  have task : (Attribute.subtaskName, []) ∈ writers := by
    simp [writers]
  have apart := apart_writers listed task List.mem_cons_self List.not_mem_nil
  exact (Text.sameIgnoringCase_eq_false_iff.1 apart).symm

end Family

namespace Policy

variable {p : Policy} {options : CompileOptions} {f : Family} {r : Rule} {name target : String}

def IsOnSite (p : Policy) (r : Rule) (site : SiteName) : Prop :=
  (r = holdSiteRule site ∧ site ∈ p.heldSites) ∨
    (r = releaseSiteRule site ∧ site ∈ validSites p.releaseSite)

theorem Makes.mem_written (makes : p.Makes options f r) (fixed : f ≠ .reset)
    (member : target ∈ r.written) :
    target ∈ Marker.hasBeenRouted :: f.writes ∨
      ∃ site, p.IsOnSite r site ∧ target = Marker.heldFrom site := by
  cases makes with
  | @holdSite site listed =>
      rcases Rule.mem_written_make member with rfl | own
      · exact .inl List.mem_cons_self
      · rcases List.mem_append.1 own with table | marker
        · exact .inl (List.mem_cons_of_mem _ table)
        · exact .inr ⟨site, .inl ⟨rfl, listed⟩, List.mem_singleton.1 marker⟩
  | @releaseSite site listed =>
      rcases Rule.mem_written_make member with rfl | own
      · exact .inl List.mem_cons_self
      · rcases List.mem_append.1 own with table | marker
        · exact .inl (List.mem_cons_of_mem _ table)
        · exact .inr ⟨site, .inr ⟨rfl, listed⟩, List.mem_singleton.1 marker⟩
  | reset listed => exact absurd rfl fixed
  | tuning tuned _ _ =>
      left
      rw [List.mem_cons]
      apply (Rule.mem_written_make member).imp_right
      intro own
      rcases of_mem_tunings tuned with ⟨rfl, rfl, _⟩ | ⟨rfl, rfl, _⟩ | ⟨rfl, rfl, _⟩ |
        ⟨rfl, rfl, _⟩ <;> exact own
  | fix _ listed =>
      left
      rw [List.mem_cons]
      rcases of_mem_fixes listed with ⟨rfl, rfl⟩ | ⟨rfl, rfl⟩ | ⟨rfl, rfl⟩ | ⟨rfl, rfl⟩ |
        ⟨rfl, rfl⟩ | ⟨rfl, rfl⟩ <;>
        exact Rule.mem_written_make member
  | _ =>
      left
      rw [List.mem_cons]
      exact Rule.mem_written_make member

/-- An attribute whose writers are known is kept by the rules of all other families. -/
theorem Makes.not_writes {families : List Family} (makes : p.Makes options f r)
    (fixed : f ≠ .reset) (known : (name, families) ∈ Family.writers) (other : f ∉ families) :
    r.writes name = false := by
  have unmarked := Family.isHeldFrom_writers known
  have exact : f.mayWrite name = decide (f ∈ families) := Family.mayWrite_writers known
  rw [Rule.writes_eq_false_iff]
  intro target member
  rcases makes.mem_written fixed member with own | ⟨site, _, rfl⟩
  · simp only [Family.mayWrite, other, decide_false, List.any_eq_false, Bool.not_eq_true] at exact
    exact exact target own
  · exact Marker.sameIgnoringCase_of_isHeldFrom (Marker.isHeldFrom_heldFrom site) unmarked

theorem Makes.not_writes_heldFrom {site : SiteName} (makes : p.Makes options f r)
    (fixed : f ≠ .reset)
    (apart : ∀ other, p.IsOnSite r other → Text.sameIgnoringCase other.text site.text = false) :
    r.writes (Marker.heldFrom site) = false := by
  rw [Rule.writes_eq_false_iff]
  intro target member
  rcases makes.mem_written fixed member with own | ⟨other, on, rfl⟩
  · rw [Text.sameIgnoringCase_comm]
    exact Marker.sameIgnoringCase_of_isHeldFrom (Marker.isHeldFrom_heldFrom site)
      (Family.isHeldFrom_writes own)
  · rw [Marker.sameIgnoringCase_heldFrom]
    exact apart other on

end Policy

end RoutingPolicy

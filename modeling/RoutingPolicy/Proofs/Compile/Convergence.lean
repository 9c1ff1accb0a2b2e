import RoutingPolicy.Proofs.Ad.Stored
import RoutingPolicy.Proofs.Compile.SelfDisabling
import RoutingPolicy.Proofs.Router.Firing

/-!
# Why runs end

A job that a document stands for has a fixed task, since no rule writes it. So either all its holds
are for good or all its releases are, provided that no task is held in one spelling and released in
another, and the same goes for every site. With that, the latches of a policy fall in two groups.
Those of the first are never opened again. Those of the second are values that the corrections put
in place; a correction opens none of the latches that precede its own.
-/

namespace RoutingPolicy

set_option autoImplicit false

open Compile Compile.Overflow Compile.Hold Compile.Ranking Compile.Correction

namespace Policy

variable {p : Policy} {options : CompileOptions} {f : Family} {r : Rule} {ad : JobAd} {held : Bool}

/-! ### Holding against releasing -/

/-- Nothing is held in one spelling and released in another. A site whose name is too long for a
pattern is never held. -/
structure HoldApart (p : Policy) : Prop where
  tasks : ∀ task ∈ p.heldTasks, ∀ released ∈ p.release.toList,
    Text.sameIgnoringCase task released = false
  sites : ∀ site ∈ p.heldSites, (Regex.read? site.text).isSome = true →
    ∀ released ∈ validSites p.releaseSite, Text.sameIgnoringCase site.text released.text = false

def IsHeld (p : Policy) (ad : JobAd) : Prop :=
  ∃ s, ad.evalAttr Attribute.subtaskName = .str s ∧
    ∃ task ∈ p.heldTasks, Text.sameIgnoringCase s task = true

theorem isHeld_of_hold (makes : p.Makes options .hold r) (fits : r.matchesAd ad = true) :
    p.IsHeld ad := by
  obtain ⟨selector, selects, rfl⟩ := makes.of_hold
  have named := Rule.exists_of_selector selects (List.mem_cons_of_mem _ List.mem_cons_self) fits
  exact named

theorem not_isHeld_of_release (apart : p.HoldApart) (makes : p.Makes options .release r)
    (fits : r.matchesAd ad = true) : ¬ p.IsHeld ad := by
  obtain ⟨selector, selects, rfl⟩ := makes.of_release
  have named := Rule.exists_of_selector selects (List.mem_cons_of_mem _ List.mem_cons_self) fits
  obtain ⟨s, read, released, listed, same⟩ := named
  rintro ⟨s', read', task, listed', same'⟩
  have again : ad.evalAttr Attribute.subtaskName = .str s := read
  rw [again] at read'
  cases read'
  have different := apart.tasks task listed' released listed
  rw [Text.sameIgnoringCase_iff] at same same'
  rw [Text.sameIgnoringCase_eq_false_iff] at different
  exact different (same'.symm.trans same)

theorem readable_of_holdSite {site : SiteName} (fits : (holdSiteRule site).matchesAd ad = true) :
    (Regex.read? site.text).isSome = true := by
  have pattern := Guard.holds_iff.1 fits _ List.mem_cons_self
  rw [JobAd.eval_matchesRegex, AttrRef.name_plain] at pattern
  cases readable : Regex.read? site.text with
  | some _ => rfl
  | none =>
      cases value : ad.evalAttr Attribute.desiredSites <;>
        simp [value, Value.matchesPattern, readable, Value.ofBool?] at pattern

/-! ### Latches that stay closed -/

/-- The families whose latch no other family writes. -/
def ownLatched : List Family :=
  [.replacement, .master, .sort, .correction, .memory, .time, .slope, .read, .resize, .raise,
    .drain, .t0Spill]

theorem writers_of_ownLatched {latch : Latch} (listed : f ∈ ownLatched)
    (shared : f.latch? options = some latch) : (latch.attr, [f]) ∈ Family.writers := by
  simp only [ownLatched, List.mem_cons, List.not_mem_nil, or_false] at listed
  rcases listed with rfl | rfl | rfl | rfl | rfl | rfl | rfl | rfl | rfl | rfl | rfl | rfl <;>
    cases shared <;> simp [Family.writers]

/-- The latches that stay closed on a job, which is to be held or not. -/
def lastingLatches (p : Policy) (options : CompileOptions) (held : Bool) : List Latch :=
  ownLatched.filterMap (·.latch? options) ++ [⟨Marker.hasBeenSetHeld, .bool held⟩] ++
    (p.heldSites.filter fun site => (Regex.read? site.text).isSome).map
      (fun site => ⟨Marker.heldFrom site, .bool true⟩) ++
    (validSites p.releaseSite).map fun site => ⟨Marker.heldFrom site, .bool false⟩

theorem mem_lastingLatches_iff {latch : Latch} :
    latch ∈ p.lastingLatches options held ↔
      (∃ f ∈ ownLatched, f.latch? options = some latch) ∨
        latch = ⟨Marker.hasBeenSetHeld, .bool held⟩ ∨
        (∃ site ∈ p.heldSites, (Regex.read? site.text).isSome = true ∧
          latch = ⟨Marker.heldFrom site, .bool true⟩) ∨
        ∃ site ∈ validSites p.releaseSite, latch = ⟨Marker.heldFrom site, .bool false⟩ := by
  simp only [lastingLatches, List.mem_append, List.mem_filterMap, List.mem_singleton, List.mem_map,
    List.mem_filter, or_assoc, and_assoc, eq_comm]

theorem closed_own {latch : Latch} {own : Family} (makes : p.Makes options f r)
    (fixed : f ≠ .reset) (listed : own ∈ ownLatched) (shared : own.latch? options = some latch)
    (closed : latch.Closed ad) : latch.Closed (r.apply ad) := by
  by_cases same : f = own
  · subst same
    exact (makes.latches shared).closes ad
  · apply Rule.closed_apply_of_not_writes _ closed
    exact makes.not_writes fixed (writers_of_ownLatched listed shared) (by simpa using same)

theorem closed_held (apart : p.HoldApart) (holds : held = true ↔ p.IsHeld ad)
    (makes : p.Makes options f r) (fixed : f ≠ .reset) (fits : r.matchesAd ad = true)
    (closed : Latch.Closed ⟨Marker.hasBeenSetHeld, .bool held⟩ ad) :
    Latch.Closed ⟨Marker.hasBeenSetHeld, .bool held⟩ (r.apply ad) := by
  by_cases hold : f = .hold
  · subst hold
    rw [holds.2 (isHeld_of_hold makes fits)]
    exact (makes.latches rfl).closes ad
  by_cases release : f = .release
  · subst release
    have free : held = false := by
      rw [Bool.eq_false_iff, Ne, holds]
      exact not_isHeld_of_release apart makes fits
    rw [free]
    exact (makes.latches rfl).closes ad
  · have known : (Marker.hasBeenSetHeld, [Family.hold, .release]) ∈ Family.writers := by
      simp [Family.writers]
    apply Rule.closed_apply_of_not_writes _ closed
    exact makes.not_writes fixed known (by simp [hold, release])

theorem closed_heldFrom {site : SiteName} {truth : Bool} (makes : p.Makes options f r)
    (fixed : f ≠ .reset) (closed : Latch.Closed ⟨Marker.heldFrom site, .bool truth⟩ ad)
    (agree : ∀ other, p.IsOnSite r other → Text.sameIgnoringCase other.text site.text = true →
      r.Latches ⟨Marker.heldFrom other, .bool truth⟩) :
    Latch.Closed ⟨Marker.heldFrom site, .bool truth⟩ (r.apply ad) := by
  by_cases on : ∃ other, p.IsOnSite r other ∧ Text.sameIgnoringCase other.text site.text = true
  · obtain ⟨other, rule, same⟩ := on
    rw [← Marker.sameIgnoringCase_heldFrom] at same
    rw [← Latch.closed_congr same]
    rw [Marker.sameIgnoringCase_heldFrom] at same
    exact (agree other rule same).closes ad
  · apply Rule.closed_apply_of_not_writes _ closed
    apply makes.not_writes_heldFrom fixed
    intro other rule
    rw [Bool.eq_false_iff]
    intro same
    exact on ⟨other, rule, same⟩

theorem closed_lasting (apart : p.HoldApart) (holds : held = true ↔ p.IsHeld ad)
    (makes : p.Makes options f r) (fixed : f ≠ .reset) (fits : r.matchesAd ad = true) :
    ∀ latch ∈ p.lastingLatches options held, latch.Closed ad → latch.Closed (r.apply ad) := by
  intro latch member closed
  rcases mem_lastingLatches_iff.1 member with
    ⟨own, listed, shared⟩ | rfl | ⟨site, listed, readable, rfl⟩ | ⟨site, listed, rfl⟩
  · exact closed_own makes fixed listed shared closed
  · exact closed_held apart holds makes fixed fits closed
  · apply closed_heldFrom makes fixed closed
    rintro other (⟨rfl, _⟩ | ⟨rfl, released⟩) same
    · exact latches_holdSiteRule other
    · have different := apart.sites site listed readable other released
      rw [Text.sameIgnoringCase_comm, different] at same
      cases same
  · apply closed_heldFrom makes fixed closed
    rintro other (⟨rfl, listed'⟩ | ⟨rfl, _⟩) same
    · have different := apart.sites other listed' (readable_of_holdSite fits) site listed
      rw [different] at same
      cases same
    · exact latches_releaseSiteRule other

/-! ### Latches of corrections -/

/-- The values that corrections put in place, none of which a later correction takes away. -/
def correctedLatches : List Latch :=
  [⟨Attribute.desiredSites, .str "T1_ES_PIC,T2_ES_CIEMAT"⟩,
    ⟨Attribute.originalMaxWallTime, .int kitWallTimeCap⟩,
    ⟨Attribute.originalMemory, .int t0MemoryCap⟩, ⟨Attribute.originalMemory, .int 18000⟩,
    ⟨Attribute.originalMemory, .int 19500⟩]

theorem not_closed_of_memoryRule {wrong right other : Int64} (different : other ≠ wrong)
    (fits : (memoryRule wrong right).matchesAd ad = true) :
    ¬ Latch.Closed ⟨Attribute.originalMemory, .int other⟩ ad := by
  intro closed
  have exact := Guard.holds_iff.1 fits _ List.mem_cons_self
  have value : ad.evalAttr Attribute.originalMemory = .int other := closed.evalAttr
  rw [JobAd.eval_compareTo, AttrRef.plain, value] at exact
  simp [Comparison.apply, Value.identical, different] at exact

theorem Makes.keeps {name : String} {families : List Family} {v : Value}
    (makes : p.Makes options f r) (fixed : f ≠ .reset)
    (known : (name, families) ∈ Family.writers) (other : f ∉ families)
    (closed : Latch.Closed ⟨name, v⟩ ad) : Latch.Closed ⟨name, v⟩ (r.apply ad) :=
  Rule.closed_apply_of_not_writes (makes.not_writes fixed known other) closed

/-- A correction closes its latch, and opens none of those before it. -/
theorem advances_corrected (makes : p.Makes options f r) (fits : r.matchesAd ad = true)
    (corrects : f ∈ [Family.multicore, .wallTime, .t0Memory, .memoryFix]) :
    r.Advances correctedLatches ad := by
  have sites : (Attribute.desiredSites, Family.siteWriters) ∈ Family.writers := by
    simp [Family.writers]
  have wallTime : (Attribute.originalMaxWallTime, [Family.time, .wallTime]) ∈ Family.writers := by
    simp [Family.writers]
  simp only [List.mem_cons, List.not_mem_nil, or_false] at corrects
  rcases corrects with rfl | rfl | rfl | rfl
  · have latched : r.Latches ⟨Attribute.desiredSites, .str "T1_ES_PIC,T2_ES_CIEMAT"⟩ :=
      makes.latches rfl
    exact ⟨[], _, _, rfl, latched.not_closed fits, latched.closes ad, by simp⟩
  · have latched : r.Latches ⟨Attribute.originalMaxWallTime, .int kitWallTimeCap⟩ :=
      makes.latches rfl
    refine ⟨[_], _, _, rfl, latched.not_closed fits, latched.closes ad, ?_⟩
    intro l member closed
    obtain rfl := List.mem_singleton.1 member
    exact makes.keeps (by decide) sites (by decide) closed
  · have latched : r.Latches ⟨Attribute.originalMemory, .int t0MemoryCap⟩ := makes.latches rfl
    refine ⟨[_, _], _, _, rfl, latched.not_closed fits, latched.closes ad, ?_⟩
    intro l member closed
    simp only [List.mem_cons, List.not_mem_nil, or_false] at member
    rcases member with rfl | rfl
    · exact makes.keeps (by decide) sites (by decide) closed
    · exact makes.keeps (by decide) wallTime (by decide) closed
  · rcases makes.of_memoryFix with rfl | rfl
    · have latched : (memoryRule 22092 18000).Latches ⟨Attribute.originalMemory, .int 18000⟩ :=
        latches_memoryRule (by decide)
      refine ⟨[_, _, _], _, _, rfl, latched.not_closed fits, latched.closes ad, ?_⟩
      intro l member closed
      simp only [List.mem_cons, List.not_mem_nil, or_false] at member
      rcases member with rfl | rfl | rfl
      · exact makes.keeps (by decide) sites (by decide) closed
      · exact makes.keeps (by decide) wallTime (by decide) closed
      · exact absurd closed (not_closed_of_memoryRule (by decide) fits)
    · have latched : (memoryRule 23260 19500).Latches ⟨Attribute.originalMemory, .int 19500⟩ :=
        latches_memoryRule (by decide)
      refine ⟨[_, _, _, _], _, _, rfl, latched.not_closed fits, latched.closes ad, ?_⟩
      intro l member closed
      simp only [List.mem_cons, List.not_mem_nil, or_false] at member
      rcases member with rfl | rfl | rfl | rfl
      · exact makes.keeps (by decide) sites (by decide) closed
      · exact makes.keeps (by decide) wallTime (by decide) closed
      · exact absurd closed (not_closed_of_memoryRule (by decide) fits)
      · exact absurd closed (not_closed_of_memoryRule (by decide) fits)

/-! ### Whole runs -/

theorem Makes.advances_own {later : List Latch} (makes : p.Makes options f r)
    (listed : f ∈ ownLatched) (fits : r.matchesAd ad = true)
    (kept : ∀ latch ∈ p.lastingLatches options held, latch.Closed ad → latch.Closed (r.apply ad)) :
    r.Advances (p.lastingLatches options held ++ later) ad := by
  have shared : ∃ latch, f.latch? options = some latch := by
    simp only [ownLatched, List.mem_cons, List.not_mem_nil, or_false] at listed
    rcases listed with rfl | rfl | rfl | rfl | rfl | rfl | rfl | rfl | rfl | rfl | rfl | rfl <;>
      exact ⟨_, rfl⟩
  obtain ⟨latch, shared⟩ := shared
  apply Rule.advances_of_mem (makes.latches shared) _ fits kept
  exact mem_lastingLatches_iff.2 (.inl ⟨f, listed, shared⟩)

/-- Every rule that matches closes a latch, and opens none that stands before it. -/
theorem Makes.advances (apart : p.HoldApart) (holds : held = true ↔ p.IsHeld ad)
    (makes : p.Makes options f r) (fixed : f ≠ .reset) (fits : r.matchesAd ad = true) :
    r.Advances (p.lastingLatches options held ++ correctedLatches) ad := by
  have kept := closed_lasting apart holds makes fixed fits
  cases f with
  | hold =>
      have isHeld := holds.2 (isHeld_of_hold makes fits)
      apply Rule.advances_of_mem (makes.latches rfl) _ fits kept
      exact mem_lastingLatches_iff.2 (.inr (.inl (by rw [isHeld])))
  | release =>
      have free : held = false := by
        rw [Bool.eq_false_iff, Ne, holds]
        exact not_isHeld_of_release apart makes fits
      apply Rule.advances_of_mem (makes.latches rfl) _ fits kept
      exact mem_lastingLatches_iff.2 (.inr (.inl (by rw [free])))
  | holdSite =>
      obtain ⟨site, listed, rfl⟩ := makes.of_holdSite
      apply Rule.advances_of_mem (latches_holdSiteRule site) _ fits kept
      have readable := readable_of_holdSite fits
      exact mem_lastingLatches_iff.2 (.inr (.inr (.inl ⟨site, listed, readable, rfl⟩)))
  | releaseSite =>
      obtain ⟨site, listed, rfl⟩ := makes.of_releaseSite
      apply Rule.advances_of_mem (latches_releaseSiteRule site) _ fits kept
      exact mem_lastingLatches_iff.2 (.inr (.inr (.inr ⟨site, listed, rfl⟩)))
  | memoryFix => exact (advances_corrected makes fits (by decide)).append kept
  | t0Memory => exact (advances_corrected makes fits (by decide)).append kept
  | multicore => exact (advances_corrected makes fits (by decide)).append kept
  | wallTime => exact (advances_corrected makes fits (by decide)).append kept
  | reset => exact absurd rfl fixed
  | _ => exact makes.advances_own (by decide) fits kept

theorem Makes.get?_task (makes : p.Makes options f r) (fixed : f ≠ .reset) (ad : JobAd) :
    (r.apply ad).get? Attribute.subtaskName = ad.get? Attribute.subtaskName := by
  have known : (Attribute.subtaskName, []) ∈ Family.writers := by
    simp [Family.writers]
  exact Rule.get?_apply_of_not_writes ad (makes.not_writes fixed known List.not_mem_nil)

/-- Where holding and releasing are apart, all long runs on a job converge. -/
theorem converges_of_holdApart (empty : p.resetRouting = []) (apart : p.HoldApart)
    (literal : ad.Literal) :
    ∃ bound, ∀ limit, bound ≤ limit →
      ((p.compile options).rules.run limit ad).1.converged = true := by
  obtain ⟨held, holds⟩ : ∃ held : Bool, held = true ↔ p.IsHeld ad := by
    by_cases isHeld : p.IsHeld ad
    · exact ⟨true, by simp [isHeld]⟩
    · exact ⟨false, by simp [isHeld]⟩
  let SameTask : JobAd → Prop := fun later =>
    later.get? Attribute.subtaskName = ad.get? Attribute.subtaskName
  have start : SameTask ad := rfl
  apply RuleSet.exists_bound_converged _ _ start
  · exact p.lastingLatches options held ++ correctedLatches
  · intro r member later same _
    obtain ⟨f, makes⟩ := mem_compile_iff.1 member
    exact (makes.get?_task (makes.ne_reset empty) later).trans same
  · intro r member later same fits
    obtain ⟨f, makes⟩ := mem_compile_iff.1 member
    apply makes.advances apart _ (makes.ne_reset empty) fits
    rw [holds, IsHeld, IsHeld, literal.evalAttr_congr same]

end Policy

end RoutingPolicy

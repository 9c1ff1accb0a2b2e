import RoutingPolicy.Proofs.Ad.Arithmetic
import RoutingPolicy.Rule.Priority

/-!
# Fewer sites rank higher

The number of sites enters the first key only in the last of its sums, and it never adds to it. So a
key that exists for many sites exists for fewer sites, and is no lower there; it is higher as long
as the two numbers are not both beyond what 64 bits can negate. Where no key exists, for a sum that
leaves the range on the way, the job counts as ranked below every key.
-/

set_option autoImplicit false

namespace RoutingPolicy

/-! ### Sums with a number that is not positive -/

namespace Integer

variable {base less more sum : Int64}

theorem add?_eq_some_iff : add? base more = some sum ↔ sum.toInt = base.toInt + more.toInt :=
  ofInt?_eq_some_iff

/-- A sum that fits still fits if less is taken away from the base: it lies between the two. -/
theorem exists_add?_eq_some (fits : add? base less = some sum) (below : less ≤ more)
    (nonpositive : more ≤ 0) : ∃ greater, add? base more = some greater := by
  rw [add?_eq_some_iff] at fits
  rw [Int64.le_iff_toInt_le] at below nonpositive
  have range : -2 ^ 63 ≤ base.toInt + more.toInt ∧ base.toInt + more.toInt < 2 ^ 63 := by
    have lower := sum.le_toInt
    have upper := base.toInt_lt
    have zero : (0 : Int64).toInt = 0 := rfl
    omega
  obtain ⟨greater, held⟩ := exists_toInt_iff.2 range
  exact ⟨greater, add?_eq_some_iff.2 held⟩

theorem add?_le_add? (below : less ≤ more) (nonpositive : more ≤ 0) :
    add? base less ≤ add? base more := by
  cases fits : add? base less with
  | none => exact Option.none_le
  | some sum =>
      obtain ⟨greater, fits'⟩ := exists_add?_eq_some fits below nonpositive
      rw [fits', Option.some_le_some, Int64.le_iff_toInt_le, add?_eq_some_iff.1 fits,
        add?_eq_some_iff.1 fits']
      rw [Int64.le_iff_toInt_le] at below
      omega

theorem add?_lt_add? (below : less < more) (fits : (add? base more).isSome = true) :
    add? base less < add? base more := by
  obtain ⟨greater, held⟩ := Option.isSome_iff_exists.1 fits
  rw [held]
  cases reached : add? base less with
  | none => exact Option.none_lt_some
  | some sum =>
      rw [Option.some_lt_some, Int64.lt_iff_toInt_lt, add?_eq_some_iff.1 reached,
        add?_eq_some_iff.1 held]
      rw [Int64.lt_iff_toInt_lt] at below
      omega

end Integer

/-! ### The priority of a number of sites -/

namespace Priority

variable {few many : Nat}

theorem toInt_ofSiteCount (count : Nat) :
    (ofSiteCount count).toInt = max (-(count : Int)) (-2 ^ 63) := by
  rw [ofSiteCount]
  cases negated : Integer.ofInt? (-count) with
  | some i =>
      have value := Integer.ofInt?_eq_some_iff.1 negated
      have lower := i.le_toInt
      rw [Option.getD_some]
      omega
  | none =>
      have large : ¬ -2 ^ 63 ≤ -(count : Int) := by
        intro fits
        obtain ⟨i, held⟩ := Integer.exists_toInt_iff.2 ⟨fits, by omega⟩
        rw [Integer.ofInt?_eq_some_iff.2 held] at negated
        cases negated
      rw [Option.getD_none, Int64.toInt_minValue]
      omega

theorem ofSiteCount_nonpositive (count : Nat) : ofSiteCount count ≤ 0 := by
  rw [Int64.le_iff_toInt_le, toInt_ofSiteCount]
  exact max_le (by simp) (by decide)

theorem ofSiteCount_le (fewer : few ≤ many) : ofSiteCount many ≤ ofSiteCount few := by
  rw [Int64.le_iff_toInt_le, toInt_ofSiteCount, toInt_ofSiteCount]
  omega

theorem ofSiteCount_lt (fewer : few < many) (exact : few < 2 ^ 63) :
    ofSiteCount many < ofSiteCount few := by
  rw [Int64.lt_iff_toInt_lt, toInt_ofSiteCount, toInt_ofSiteCount]
  omega

end Priority

/-! ### The first key -/

namespace PriorityInputs

def withSites (p : PriorityInputs) (count : Nat) : PriorityInputs :=
  { p with sitePrio := Priority.ofSiteCount count }

/-- What the workflow and the name of the task add to the first key, if it fits. -/
def siteless? (p : PriorityInputs) : Option Int64 :=
  (Integer.mul? p.workflowPrio Priority.workflowWeight).bind fun workflow =>
    (Integer.mul? p.subtaskNameLength Priority.nameLengthWeight).bind fun name =>
      Integer.add? workflow name

theorem primaryKey?_withSites (p : PriorityInputs) (count : Nat) :
    (p.withSites count).primaryKey? =
      p.siteless?.bind fun base => Integer.add? base (Priority.ofSiteCount count) := by
  simp only [primaryKey?, siteless?, withSites, Option.bind_eq_bind, Option.bind_assoc]

/-- With fewer sites the first key is no lower, where a key that does not exist is lowest of all. It
is higher if it exists and the smaller number can be negated in 64 bits. -/
theorem fewer_sites_rank_higher (p : PriorityInputs) (few many : Nat) (fewer : few < many) :
    (p.withSites many).primaryKey? ≤ (p.withSites few).primaryKey? ∧
      ((p.withSites few).primaryKey?.isSome = true → few < 2 ^ 63 →
        (p.withSites many).primaryKey? < (p.withSites few).primaryKey?) := by
  rw [primaryKey?_withSites, primaryKey?_withSites]
  cases p.siteless? with
  | none => exact ⟨Option.none_le, nofun⟩
  | some base =>
      rw [Option.bind_some, Option.bind_some]
      constructor
      · exact Integer.add?_le_add? (Priority.ofSiteCount_le fewer.le)
          (Priority.ofSiteCount_nonpositive few)
      · intro fits negated
        exact Integer.add?_lt_add? (Priority.ofSiteCount_lt fewer negated) fits

/-- At the lower end of the range one site more leaves no key. -/
theorem fewer_sites_rank_higher_at_the_end :
    let p : PriorityInputs := ⟨-92233720368547, 0, 0, 480, 5500000⟩
    75808 < 75809 ∧ (p.withSites 75808).primaryKey? = some Int64.minValue ∧
      (p.withSites 75809).primaryKey? = none ∧
      (p.withSites 75809).primaryKey? < (p.withSites 75808).primaryKey? := by
  intro p
  have last : (p.withSites 75808).primaryKey? = some Int64.minValue := by decide +kernel
  have gone : (p.withSites 75809).primaryKey? = none := by decide +kernel
  have ranked := fewer_sites_rank_higher p 75808 75809 (by decide)
  exact ⟨by decide, last, gone, ranked.2 (by rw [last]; rfl) (by decide)⟩

end PriorityInputs

end RoutingPolicy

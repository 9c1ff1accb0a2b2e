/-!
# Categories of rules

Every rule belongs to a category, which says from which part of a policy it comes. Rules are listed
category by category, and the first rule that matches a job is applied, so earlier categories take
precedence.
-/

set_option autoImplicit false

namespace RoutingPolicy

/-- A family of rules that comes from one part of a policy. -/
inductive Category where
  | overflow
  | sortWhitelist
  | priorityCorrection
  | memory
  | time
  | slope
  | resize
  | read
  | hold
  | release
  | holdSite
  | releaseSite
  | priorityRaise
  | drain
  | adHoc
  | reset
  deriving DecidableEq

namespace Category

def emissionOrder : List Category :=
  [overflow, sortWhitelist, priorityCorrection, memory, time, slope, resize, read, hold, release,
    holdSite, releaseSite, priorityRaise, drain, adHoc, reset]

def name : Category → String
  | overflow => "overflow"
  | sortWhitelist => "sort-whitelist"
  | priorityCorrection => "priority-correction"
  | memory => "memory"
  | time => "time"
  | slope => "slope"
  | resize => "resize"
  | read => "read"
  | hold => "hold"
  | release => "release"
  | holdSite => "hold-site"
  | releaseSite => "release-site"
  | priorityRaise => "priority-raise"
  | drain => "drain"
  | adHoc => "ad-hoc"
  | reset => "reset"

def ofName? (s : String) : Option Category := emissionOrder.find? (·.name == s)

def position (c : Category) : Nat := emissionOrder.idxOf c

theorem mem_emissionOrder (c : Category) : c ∈ emissionOrder := by cases c <;> decide

theorem nodup_emissionOrder : emissionOrder.Nodup := by decide

end Category

end RoutingPolicy

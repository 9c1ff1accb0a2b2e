/-!
# Options of compilation
-/

set_option autoImplicit false

namespace RoutingPolicy

/-- What can be chosen beside the policy. -/
structure CompileOptions where
  sortWhitelist : Bool
  adhoc : Bool
  holdSite : String
  /-- The accounting group for requests of high priority. -/
  highprioGroup : String
  /-- The priority of idle jobs of draining agents. -/
  drainPrio : Int64

namespace CompileOptions

/-- The whitelist of held tasks, which no site matches. -/
def defaultHoldSite : String := "T2_NW_NOWHERE"

def defaultHighprioGroup : String := "highprio.cmsdataops"

def defaultDrainPrio : Int64 := 200000

def standard : CompileOptions :=
  ⟨true, true, defaultHoldSite, defaultHighprioGroup, defaultDrainPrio⟩

end CompileOptions

end RoutingPolicy

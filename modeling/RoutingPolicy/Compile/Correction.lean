import RoutingPolicy.Compile.Options
import RoutingPolicy.Compile.Sites
import RoutingPolicy.Rule.Attribute

/-!
# Fixed rules and resets

Some rules do not depend on the policy: the sorting of whitelists, and a table of corrections for
known faults of requests. A reset clears a flag on every job that carries it, so that the rules of
that flag may act again.
-/

set_option autoImplicit false

namespace RoutingPolicy.Compile.Correction

/-! ### Sorting -/

/-- The rule that sorts the whitelist of a job that was routed before. It does nothing where the
router lacks the function for it. -/
def sortRule : Rule :=
  .make .sortWhitelist "Sort Ads"
    [.compare .distinct (.call .sortStringSet [.str ""]) (.lit .error),
      .compare .identical (.target Marker.hasBeenRouted) (.bool false),
      .flagIsNotTrue (.target Marker.hasBeenSorted)]
    [.copy Attribute.desiredSites Attribute.prevDesiredSites,
      .evalSet Attribute.desiredSites (.call .sortStringSet [.named Attribute.prevDesiredSites])]
    [⟨Marker.hasBeenSorted, true⟩]

def sort (options : CompileOptions) : List Compiled :=
  if options.sortWhitelist then [.rule sortRule] else []

/-! ### Corrections -/

def t0Site : String := "T0_CH_CERN"

def t0OverflowSite : String := "T2_CH_CERN"

def t0MemoryCap : Int64 := 14800

def kitWallTimeCap : Int64 := 1400

def memoryRule (wrong right : Int64) : Rule :=
  .make .adHoc ("Correcting memory requirement of " ++ Integer.text wrong)
    [.compareTo .identical (.plain Attribute.originalMemory) (.int wrong)]
    [.set Attribute.originalMemory (.int right)]
    []

def t0MemoryRule : Rule :=
  .make .adHoc "Correcting memory requirement of 15200 for T0"
    [.compareTo (.order .gt) (.plain Attribute.originalMemory) (.int t0MemoryCap),
      .matchesRegex "T0" (.plain Attribute.desiredSites)]
    [.set Attribute.originalMemory (.int t0MemoryCap)]
    []

def t0SpillRule : Rule :=
  let saved := .named Attribute.t0OffDesiredSites
  .make .adHoc "Draining T0 VMs"
    [.matchesRegex t0Site (.plain Attribute.desiredSites), .flagIsNotTrue (.plain Marker.outOfT0)]
    [.copy Attribute.desiredSites Attribute.t0OffDesiredSites,
      .evalSet Attribute.desiredSites
        (.cond (.call .stringListMember [.str t0OverflowSite, saved]) saved
          (.call .strcat [saved, .str ("," ++ t0OverflowSite)]))]
    [⟨Marker.outOfT0, true⟩]

def multicoreRule : Rule :=
  .make .adHoc "Routing multicore job from IFCA to other sites"
    [.compareTo .equal (.plain Attribute.desiredSites) (.str "T2_ES_IFCA"),
      .compareTo .distinct (.plain Attribute.requestCpus) (.int 1)]
    [.set Attribute.desiredSites (.str "T1_ES_PIC,T2_ES_CIEMAT")]
    []

def wallTimeRule : Rule :=
  .make .adHoc "Shortening long job on KIT"
    [.compareTo .equal (.plain Attribute.desiredSites) (.str "T1_DE_KIT"),
      .compareTo (.order .gt) (.plain Attribute.originalMaxWallTime) (.int kitWallTimeCap)]
    [.set Attribute.originalMaxWallTime (.int kitWallTimeCap),
      .set Attribute.estimatedSingleCoreMins
        (.named Attribute.originalMaxWallTime * .named Attribute.originalCpus)]
    []

def corrections : List Rule :=
  [memoryRule 22092 18000, memoryRule 23260 19500, t0MemoryRule, t0SpillRule, multicoreRule,
    wallTimeRule]

def adhoc (options : CompileOptions) : List Compiled :=
  if options.adhoc then corrections.map .rule else []

/-! ### Resets -/

def addFlag (flags : List String) (flag : String) : List String :=
  if flags.any fun known => Marker.isSame known flag then flags else flags ++ [flag]

def distinctFlags (flags : List String) : List String := flags.foldl addFlag []

def resetRule (flag : String) : Rule :=
  .make .reset ("Reset routing for " ++ flag) [.flagIsTrue (.plain flag)] [] [⟨flag, false⟩]

def reset (flags : List String) : List Compiled :=
  (distinctFlags (Text.nonblank flags)).map fun flag => .rule (resetRule flag)

end RoutingPolicy.Compile.Correction

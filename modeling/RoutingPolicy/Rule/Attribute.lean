/-!
# Attributes that rules read and write
-/

set_option autoImplicit false

namespace RoutingPolicy.Attribute

def desiredSites : String := "DESIRED_Sites"

def subtaskName : String := "WMAgent_SubTaskName"

def requestName : String := "WMAgent_RequestName"

/-- The identifier of the job, which begins with its agent. -/
def globalJobId : String := "GlobalJobId"

def jobStatus : String := "JobStatus"

def jobPrio : String := "JobPrio"

def accountingGroup : String := "AccountingGroup"

def rank : String := "Rank"

def glideinSite : String := "GLIDEIN_CMSSite"

def extDesiredSites : String := "ExtDESIRED_Sites"

def originalMemory : String := "OriginalMemory"

def originalCpus : String := "OriginalCpus"

def originalMaxWallTime : String := "OriginalMaxWallTimeMins"

def estimatedSingleCoreMins : String := "EstimatedSingleCoreMins"

def estimatedInputRate : String := "EstimatedInputRateKBs"

def extraMemory : String := "ExtraMemory"

def minCores : String := "MinCores"

def maxCores : String := "MaxCores"

def requestCpus : String := "RequestCpus"

def requestDisk : String := "RequestDisk"

def maxWallTime : String := "MaxWallTimeMins"

def postJobPrio1 : String := "PostJobPrio1"

def postJobPrio2 : String := "PostJobPrio2"

def agentPostJobPrio1 : String := "WMAgent_PostJobPrio1"

def agentPostJobPrio2 : String := "WMAgent_PostJobPrio2"

def routerPostJobPrio1 : String := "JR_PostJobPrio1"

def routerPostJobPrio2 : String := "JR_PostJobPrio2"

/-! ### Saved whitelists, one for each family of rules that rewrites the whitelist -/

def preDesiredSites : String := "Pre_DESIRED_Sites"

def prevDesiredSites : String := "Prev_DESIRED_Sites"

def heldDesiredSites : String := "Held_DESIRED_Sites"

def holdingDesiredSites : String := "Holding_DESIRED_Sites"

def releasingDesiredSites : String := "Releasing_DESIRED_Sites"

def t0OffDesiredSites : String := "T0Off_DESIRED_Sites"

end RoutingPolicy.Attribute

import RoutingPolicy.Ad.JobAd
import RoutingPolicy.Rule.Attribute
import RoutingPolicy.Rule.Marker

/-!
# Sample jobs

A sample job looks like one that an agent submits: it waits for a machine and asks for usual
resources. Functions on its ad change one property each.
-/

set_option autoImplicit false

namespace RoutingPolicy.Sample

def jobId (workflow : String) : String := "vocms0100.cern.ch#" ++ workflow ++ ".0#1700000000"

def jobValues (workflow task : String) : List (String × Value) := [
  (Attribute.requestName, .str workflow),
  (Attribute.subtaskName, .str task),
  (Attribute.globalJobId, .str (jobId workflow)),
  (Attribute.jobStatus, .int 1),
  (Attribute.jobPrio, .int 100000),
  (Attribute.desiredSites, .str "T1_US_FNAL"),
  (Attribute.originalMemory, .int 2500),
  (Attribute.originalCpus, .int 1),
  (Attribute.requestCpus, .int 1),
  (Attribute.originalMaxWallTime, .int 720),
  (Attribute.maxWallTime, .int 720),
  (Attribute.estimatedSingleCoreMins, .int 480),
  (Attribute.requestDisk, .int 4000000),
  (Attribute.postJobPrio1, .int (-1)),
  (Attribute.postJobPrio2, .int 8)]

def job (workflow task : String) : JobAd :=
  (jobValues workflow task).foldl (fun ad (name, v) => ad.assign name v) .empty

def withSites (ad : JobAd) (sites : String) : JobAd := ad.assign Attribute.desiredSites (.str sites)

def withMemory (ad : JobAd) (mb : Int64) : JobAd := ad.assign Attribute.originalMemory (.int mb)

def withCpus (ad : JobAd) (cpus : Int64) : JobAd :=
  (ad.assign Attribute.originalCpus (.int cpus)).assign Attribute.requestCpus (.int cpus)

def resizable (ad : JobAd) : JobAd := ad.assign Marker.resizeJob (.bool false)

def withJobId (ad : JobAd) (id : String) : JobAd := ad.assign Attribute.globalJobId (.str id)

end RoutingPolicy.Sample

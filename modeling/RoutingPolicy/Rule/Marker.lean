import RoutingPolicy.Site.Name
import RoutingPolicy.Text.Case

/-!
# Marker flags

A marker is a truth value in the ad of a job that records that a family of rules has acted on it. A
missing marker and a false one say the same: not yet.
-/

set_option autoImplicit false

namespace RoutingPolicy.Marker

/-- Made false by every rule, so that the job is looked at again. -/
def hasBeenRouted : String := "HasBeenRouted"

def hasBeenRoutedOverflow : String := "HasBeenRouted_Overflow"

def hasBeenReplaced : String := "HasBeenReplaced"

def hasBeenSorted : String := "HasBeenSorted"

def hasPrioCorrection : String := "HasPrioCorrection"

def hasBeenMemoryTuned : String := "HasBeenMemoryTuned"

def hasBeenTimingTuned : String := "HasBeenTimingTuned"

def hasBeenSlopeTuned : String := "HasBeenSlopeTuned"

def hasBeenReadTuned : String := "HasBeenReadTuned"

def resizeJob : String := "WMCore_ResizeJob"

def hasBeenSetHeld : String := "HasBeenSetHeld"

def hasBeenRaisedHighPrio : String := "HasBeenRaisedHighPrio"

def outOfT0 : String := "OutOfT0"

def heldFromStem : String := "HasBeenHeldFrom"

def heldFrom (site : SiteName) : String := heldFromStem ++ site.text

def isSame (name flag : String) : Bool := Text.sameIgnoringCase name flag

end RoutingPolicy.Marker

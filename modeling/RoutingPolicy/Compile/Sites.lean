import RoutingPolicy.Collections.Distinct
import RoutingPolicy.Compile.Entry
import RoutingPolicy.Text.Blank

/-!
# Sites in a policy

Wherever a policy lists sites, blanks around a name do not count, a site counts once, and a text
that names no site is reported and left out.
-/

set_option autoImplicit false

namespace RoutingPolicy

/-- The site that a text names when blanks around it are dropped. -/
def trimmedSite? (s : String) : Option SiteName := (SiteName.ofString? (Text.trim s)).toOption

/-- The sites that texts name, each once, in order of first occurrence. -/
def validSites (texts : List String) : List SiteName := addAllNew [] (texts.filterMap trimmedSite?)

def invalidSites (texts : List String) : List String :=
  texts.filter fun s => (trimmedSite? s).isNone

def invalidSiteReasons (texts : List String) : List SkipReason :=
  (invalidSites texts).map .invalidSite

end RoutingPolicy

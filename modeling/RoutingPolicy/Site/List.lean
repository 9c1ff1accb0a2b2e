import RoutingPolicy.Collections.Distinct
import RoutingPolicy.Collections.SortedSet
import RoutingPolicy.Text.Blank

/-!
# Site lists

The whitelist of a job is one text. Its entries are separated by commas or blanks, any number of
them; it is written with single commas. All operations here read the entries and write a list of
entries, so how the text was spaced does not show in the result.
-/

set_option autoImplicit false

namespace RoutingPolicy.SiteList

def isSeparator (c : Char) : Bool := c == ',' || Text.isBlank c

def entries (list : String) : List String :=
  ((list.toList.splitOnP isSeparator).filter fun entry => !entry.isEmpty).map String.ofList

/-- Adds an entry behind what is written already. Nothing stands before the first entry. -/
def append (written entry : String) : String :=
  if written = "" then entry else written ++ "," ++ entry

def join (entries : List String) : String := entries.foldl append ""

def contains (list site : String) : Bool := (entries list).contains site

def sorted (list : String) : String := join (SortedSet.ofList (entries list)).toList

def without (list site : String) : String := join ((entries list).filter (· != site))

/-- The distinct entries of the list, followed by those that `destinations` gives for each of
them. -/
def expand (destinations : String → List String) (list : String) : String :=
  let sources := addAllNew [] (entries list)
  join (addAllNew sources (sources.flatMap destinations))

end RoutingPolicy.SiteList

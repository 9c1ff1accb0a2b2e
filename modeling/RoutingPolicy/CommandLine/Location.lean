import RoutingPolicy.Text.Blank
import RoutingPolicy.Text.Diagnostic

/-!
# Where a policy lies

A location is a path, a `file://` address, which stands for the path behind it, or an `http://` or
`https://` address. An address of another kind is refused.
-/

set_option autoImplicit false

namespace RoutingPolicy

inductive PolicyLocation where
  | file (path : String)
  | http (url : String)
  deriving DecidableEq

structure UnsupportedLocation where
  location : String
  deriving DecidableEq

def UnsupportedLocation.message (u : UnsupportedLocation) : String :=
  "unsupported policy location " ++ Text.diagnostic u.location

namespace PolicyLocation

def occurs (part : List Char) : List Char → Bool
  | [] => part.isEmpty
  | c :: rest => part.isPrefixOf (c :: rest) || occurs part rest

/-- The mark between the kind of an address and the address. -/
def schemeMark : List Char := [':', '/', '/']

def fileScheme : List Char := "file".toList ++ schemeMark

def httpSchemes : List (List Char) := ["http".toList ++ schemeMark, "https".toList ++ schemeMark]

/-- The location that a text stands for. Blanks around it do not count. -/
def ofString? (text : String) : Except UnsupportedLocation PolicyLocation :=
  let location := Text.trim text
  let cs := location.toList
  if location = "" then .error ⟨location⟩
  else if fileScheme.isPrefixOf cs then .ok (.file (String.ofList (cs.drop fileScheme.length)))
  else if httpSchemes.any (·.isPrefixOf cs) then .ok (.http location)
  else if occurs schemeMark cs then .error ⟨location⟩
  else .ok (.file location)

def text : PolicyLocation → String
  | file path => path
  | http url => url

end PolicyLocation

end RoutingPolicy

import RoutingPolicy.Collections.SortedMap
import RoutingPolicy.Number.Binary64

/-!
# JSON values

Policies and job ads arrive as JSON. A number is an integer or a finite double precision number, and
the two are never confused: `1` and `1.0` are different values. The members of an object that was
read are listed in ascending order of their names, each name once; `Json.ofMembers` makes such an
object. A document that is to be printed may list its members in any order.
-/

set_option autoImplicit false

namespace RoutingPolicy

inductive JsonNumber where
  | integer (i : Int)
  /-- Any other number; it is finite, and zero has a sign. -/
  | real (negative : Bool) (magnitude : Magnitude)
  deriving DecidableEq

/-- A JSON document. An object lists names with documents. -/
inductive Json where
  | null
  | bool (b : Bool)
  | number (n : JsonNumber)
  | string (s : String)
  | array (items : List Json)
  | object (members : List (String × Json))

namespace JsonNumber

def toBinary64 : JsonNumber → Binary64
  | integer i => .ofInt i
  | real negative magnitude => .finite negative magnitude

end JsonNumber

namespace Json

instance : Inhabited Json := ⟨null⟩

def ofInt (i : Int) : Json := number (.integer i)

def ofStrings (texts : List String) : Json := array (texts.map string)

/-- The object with the given members, ascending; of equal names the last counts. -/
def ofMembers (members : List (String × Json)) : Json := object (SortedMap.ofList members).entries

end Json

end RoutingPolicy

import RoutingPolicy.Json.Basic
import RoutingPolicy.Number.Integer
import RoutingPolicy.Site.Mapping

/-!
# Values of job ads

An attribute of a job ad has one of eight kinds of value; a missing attribute reads as undefined,
and a computation without a result as error. The fields of a record are listed in ascending order of
their names, each once: `Value.ofFields` makes such a record. Identity of values is strict: it never
confuses kinds, and it respects the case of letters.
-/

set_option autoImplicit false

namespace RoutingPolicy

inductive Value where
  | undefined
  /-- The value of a computation that has no result. -/
  | error
  | bool (b : Bool)
  | int (i : Int64)
  | real (r : Binary64)
  | str (s : String)
  | list (items : List Value)
  | record (fields : List (String × Value))

namespace Value

instance : Inhabited Value := ⟨undefined⟩

/-- The record with the given fields, ascending; of equal names the last counts. -/
def ofFields (fields : List (String × Value)) : Value := record (SortedMap.ofList fields).entries

def ofStrings (texts : List String) : Value := list (texts.map str)

def ofMapping (mapping : ScopedMapping) : Value :=
  record <| mapping.bySource.entries.map fun (source, destinations) =>
    (source, ofStrings destinations)

def isTrue : Value → Bool
  | bool b => b
  | _ => false

def isUndefined : Value → Bool
  | undefined => true
  | _ => false

def isError : Value → Bool
  | error => true
  | _ => false

def str? : Value → Option String
  | str s => some s
  | _ => none

def int? : Value → Option Int64
  | int i => some i
  | _ => none

def real? : Value → Option Binary64
  | int i => some (.ofInt i.toInt)
  | real r => some r
  | _ => none

def kind : Value → String
  | undefined => "undefined"
  | error => "error"
  | bool _ => "boolean"
  | int _ => "integer"
  | real _ => "real"
  | str _ => "string"
  | list _ => "list"
  | record _ => "record"

mutual

/-- Whether two values are of one kind and the same. Doubles are compared as numbers, so NaN is not
identical to itself. -/
def identical : Value → Value → Bool
  | undefined, undefined => true
  | error, error => true
  | bool a, bool b => a == b
  | int a, int b => a == b
  | real a, real b => a.equal b
  | str a, str b => a == b
  | list a, list b => identicalItems a b
  | record a, record b => identicalFields a b
  | _, _ => false

def identicalItems : List Value → List Value → Bool
  | [], [] => true
  | a :: as, b :: bs => identical a b && identicalItems as bs
  | _, _ => false

def identicalFields : List (String × Value) → List (String × Value) → Bool
  | [], [] => true
  | (m, a) :: as, (n, b) :: bs => m == n && identical a b && identicalFields as bs
  | _, _ => false

end

/-! ### JSON -/

/-- The value of a JSON number: an integer if 64 bits hold it, else a double. -/
def ofNumber (n : JsonNumber) : Value :=
  match n with
  | .integer i => match Integer.ofInt? i with
    | some i => int i
    | none => real n.toBinary64
  | .real .. => real n.toBinary64

mutual

def ofJson : Json → Value
  | .null => undefined
  | .bool b => bool b
  | .number n => ofNumber n
  | .string s => str s
  | .array items => list (ofItems items)
  | .object members => record (ofMembers members)

def ofItems : List Json → List Value
  | [] => []
  | item :: items => ofJson item :: ofItems items

def ofMembers : List (String × Json) → List (String × Value)
  | [] => []
  | (name, document) :: members => (name, ofJson document) :: ofMembers members

end

mutual

/-- The JSON document that stands for a value. Error, NaN and the infinities have none of their
own. -/
def toJson : Value → Json
  | undefined => .null
  | error => .null
  | bool b => .bool b
  | int i => .ofInt i.toInt
  | real (.finite negative m) => .number (.real negative m)
  | real _ => .null
  | str s => .string s
  | list items => .array (toItems items)
  | record fields => .object (toMembers fields)

def toItems : List Value → List Json
  | [] => []
  | v :: values => toJson v :: toItems values

def toMembers : List (String × Value) → List (String × Json)
  | [] => []
  | (name, v) :: fields => (name, toJson v) :: toMembers fields

end

end Value

end RoutingPolicy

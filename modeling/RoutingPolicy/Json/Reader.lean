import RoutingPolicy.Json.Number
import RoutingPolicy.Text.Hex

/-!
# Reading JSON text

The reader takes exactly one document, with blanks around its parts: space, tab, line feed and
carriage return are the only blanks. Lists and objects may be nested 127 deep. A text may hold no
raw control character, and an escape for half of a surrogate pair is refused without its other half.
-/

set_option autoImplicit false

namespace RoutingPolicy.Json

def isSpace (c : Char) : Bool := c == ' ' || c == '\t' || c == '\n' || c == '\r'

def skipSpace (cs : List Char) : List Char := cs.dropWhile isSpace

/-- The number that four hexadecimal digits at the front write. -/
def takeUnit? : List Char → Option (Nat × List Char)
  | a :: b :: c :: d :: rest => (Text.readHex? [a, b, c, d]).map (·, rest)
  | _ => none

/-- The character that a code unit begins, and what follows it: the first half of a surrogate pair
needs an escape for the second half behind it. -/
def unitChar? (unit : Nat) (cs : List Char) : Option (Char × List Char) :=
  if unit < 0xd800 ∨ 0xdfff < unit then some (Char.ofNat unit, cs)
  else if 0xdc00 ≤ unit then none
  else match cs with
    | '\\' :: 'u' :: rest => do
      let (second, rest) ← takeUnit? rest
      if 0xdc00 ≤ second ∧ second ≤ 0xdfff then
        some (Char.ofNat (0x10000 + (unit - 0xd800) * 0x400 + (second - 0xdc00)), rest)
      else none
    | _ => none

def escaped? : List Char → Option (Char × List Char)
  | '"' :: rest => some ('"', rest)
  | '\\' :: rest => some ('\\', rest)
  | '/' :: rest => some ('/', rest)
  | 'b' :: rest => some ('\x08', rest)
  | 'f' :: rest => some ('\x0c', rest)
  | 'n' :: rest => some ('\n', rest)
  | 'r' :: rest => some ('\r', rest)
  | 't' :: rest => some ('\t', rest)
  | 'u' :: rest => (takeUnit? rest).bind fun (unit, rest) => unitChar? unit rest
  | _ => none

/-- The characters of a text up to its closing quotation mark, which `fuel` steps reach. -/
def takeText? : Nat → List Char → Option (List Char × List Char)
  | _, '"' :: rest => some ([], rest)
  | fuel + 1, '\\' :: rest => do
    let (c, rest) ← escaped? rest
    let (cs, rest) ← takeText? fuel rest
    return (c :: cs, rest)
  | fuel + 1, c :: rest =>
    if c.toNat < 0x20 then none
    else (takeText? fuel rest).map fun (cs, rest) => (c :: cs, rest)
  | _, _ => none

def takeString? (fuel : Nat) : List Char → Option (String × List Char)
  | '"' :: rest => (takeText? fuel rest).map fun (cs, rest) => (String.ofList cs, rest)
  | _ => none

mutual

/-- A document at the front, in which lists and objects are nested at most `depth` deep. -/
def takeValue? : Nat → Nat → List Char → Option (Json × List Char)
  | 0, _, _ => none
  | fuel + 1, depth, cs =>
    match skipSpace cs with
    | 'n' :: 'u' :: 'l' :: 'l' :: rest => some (null, rest)
    | 't' :: 'r' :: 'u' :: 'e' :: rest => some (bool true, rest)
    | 'f' :: 'a' :: 'l' :: 's' :: 'e' :: rest => some (bool false, rest)
    | '"' :: rest => (takeString? fuel ('"' :: rest)).map fun (s, rest) => (string s, rest)
    | '[' :: rest =>
      match depth with
      | 0 => none
      | depth + 1 =>
        match skipSpace rest with
        | ']' :: rest => some (array [], rest)
        | rest => (takeItems? fuel depth rest).map fun (items, rest) => (array items, rest)
    | '\x7b' :: rest =>
      match depth with
      | 0 => none
      | depth + 1 =>
        match skipSpace rest with
        | '\x7d' :: rest => some (object [], rest)
        | rest =>
          (takeMembers? fuel depth rest).map fun (members, rest) => (ofMembers members, rest)
    | rest => (JsonNumber.read? rest).map fun (n, rest) => (number n, rest)

def takeItems? : Nat → Nat → List Char → Option (List Json × List Char)
  | 0, _, _ => none
  | fuel + 1, depth, cs => do
    let (item, rest) ← takeValue? fuel depth cs
    match skipSpace rest with
    | ',' :: rest =>
      let (items, rest) ← takeItems? fuel depth rest
      return (item :: items, rest)
    | ']' :: rest => return ([item], rest)
    | _ => none

/-- One member or more, and the brace that closes the object. -/
def takeMembers? : Nat → Nat → List Char → Option (List (String × Json) × List Char)
  | 0, _, _ => none
  | fuel + 1, depth, cs => do
    let (name, rest) ← takeString? fuel (skipSpace cs)
    match skipSpace rest with
    | ':' :: rest =>
      let (value, rest) ← takeValue? fuel depth rest
      match skipSpace rest with
      | ',' :: rest =>
        let (members, rest) ← takeMembers? fuel depth rest
        return ((name, value) :: members, rest)
      | '\x7d' :: rest => return ([(name, value)], rest)
      | _ => none
    | _ => none

end

def maxDepth : Nat := 127

def read? (s : String) : Option Json :=
  let cs := s.toList
  match takeValue? (2 * cs.length + 1) maxDepth cs with
  | some (document, rest) => if (skipSpace rest).isEmpty then some document else none
  | none => none

end RoutingPolicy.Json

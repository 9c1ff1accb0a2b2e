import RoutingPolicy.Json.Number
import RoutingPolicy.Text.Hex

/-!
# JSON text

A document is printed on one line without spaces, or with one member or item a line, indented by two
spaces for each level. An empty list or object is closed on the spot in both layouts.
-/

set_option autoImplicit false

namespace RoutingPolicy.Json

def escapeChar (c : Char) : String :=
  if c = '"' then "\\\""
  else if c = '\\' then "\\\\"
  else if c = '\x08' then "\\b"
  else if c = '\x0c' then "\\f"
  else if c = '\n' then "\\n"
  else if c = '\r' then "\\r"
  else if c = '\t' then "\\t"
  else if c.toNat < 0x20 then "\\u00" ++ Text.hexByte c.toNat
  else c.toString

def quote (s : String) : String :=
  s.toList.foldl (fun written c => written ++ escapeChar c) "\"" ++ "\""

inductive Layout where
  | compact
  /-- Over several lines, from a level of indentation on. -/
  | lines (level : Nat)

namespace Layout

def inner : Layout → Layout
  | compact => compact
  | lines level => lines (level + 1)

def lineBreak : Layout → String
  | compact => ""
  | lines level => "\n" ++ String.ofList (List.replicate (2 * level) ' ')

def colon : Layout → String
  | compact => ":"
  | lines _ => ": "

end Layout

mutual

def write (layout : Layout) : Json → String
  | null => "null"
  | bool true => "true"
  | bool false => "false"
  | number n => n.text
  | string s => quote s
  | array [] => "[]"
  | array (item :: items) =>
    "[" ++ layout.inner.lineBreak ++ write layout.inner item ++ writeItems layout items ++
      layout.lineBreak ++ "]"
  | object [] => "\x7b\x7d"
  | object ((name, value) :: members) =>
    "\x7b" ++ layout.inner.lineBreak ++ quote name ++ layout.colon ++ write layout.inner value ++
      writeMembers layout members ++ layout.lineBreak ++ "\x7d"

def writeItems (layout : Layout) : List Json → String
  | [] => ""
  | item :: items =>
    "," ++ layout.inner.lineBreak ++ write layout.inner item ++ writeItems layout items

def writeMembers (layout : Layout) : List (String × Json) → String
  | [] => ""
  | (name, value) :: members =>
    "," ++ layout.inner.lineBreak ++ quote name ++ layout.colon ++ write layout.inner value ++
      writeMembers layout members

end

def compact (document : Json) : String := document.write .compact

def pretty (document : Json) : String := document.write (.lines 0)

end RoutingPolicy.Json

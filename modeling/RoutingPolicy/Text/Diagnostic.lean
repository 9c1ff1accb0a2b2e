import RoutingPolicy.Text.Hex
import RoutingPolicy.Text.Printable

/-!
# Quoting a text in a message

A message quotes a text between double quotation marks so that no character is lost or misread:
quotation mark and backslash, the line controls, tab and NUL are written with a backslash, and all
else that does not show as itself by its code point in hexadecimal.
-/

set_option autoImplicit false

namespace RoutingPolicy.Text

def diagnosticChar (c : Char) : String :=
  if c = '\x00' then "\\0"
  else if c = '\t' then "\\t"
  else if c = '\r' then "\\r"
  else if c = '\n' then "\\n"
  else if c = '\\' then "\\\\"
  else if c = '"' then "\\\""
  else if isExtending c || !isPrintable c then "\\u\x7b" ++ hex c.toNat ++ "\x7d"
  else c.toString

def diagnostic (s : String) : String :=
  s.toList.foldl (fun written c => written ++ diagnosticChar c) "\"" ++ "\""

end RoutingPolicy.Text

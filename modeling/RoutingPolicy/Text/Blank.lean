import RoutingPolicy.Text.CharTable

/-!
# Blank characters and trimming

A character is blank when it has Unicode's property White_Space. Trimming removes the blank
characters at both ends.
-/

set_option autoImplicit false

namespace RoutingPolicy.Text

def blankTable : CharTable := [
  (0x9, 0xd), (0x20, 0x20), (0x85, 0x85), (0xa0, 0xa0), (0x1680, 0x1680), (0x2000, 0x200a),
  (0x2028, 0x2029), (0x202f, 0x202f), (0x205f, 0x205f), (0x3000, 0x3000)]

def isBlank (c : Char) : Bool := blankTable.contains c

def trimRight (cs : List Char) : List Char := (cs.reverse.dropWhile isBlank).reverse

def trim (s : String) : String := String.ofList (trimRight (s.toList.dropWhile isBlank))

/-- The texts that are not blank, without the blanks around them. -/
def nonblank (texts : List String) : List String := (texts.map trim).filter (· != "")

end RoutingPolicy.Text

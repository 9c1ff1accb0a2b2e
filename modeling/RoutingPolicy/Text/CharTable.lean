/-!
# Sets of characters as ranges of code points

A table is in normal form when its ranges ascend and no two of them overlap or touch. The operations
on tables return normal forms, so a table shows at once how many ranges a set of characters takes.
-/

set_option autoImplicit false

namespace RoutingPolicy.Text

abbrev CharTable := List (Nat × Nat)

namespace CharTable

def holds (table : CharTable) (code : Nat) : Bool :=
  table.any fun range => range.1 ≤ code && code ≤ range.2

def contains (table : CharTable) (c : Char) : Bool := table.holds c.toNat

def joinFrom (current : Nat × Nat) : CharTable → CharTable
  | [] => [current]
  | range :: rest =>
    if range.1 ≤ current.2 + 1 then joinFrom (current.1, max current.2 range.2) rest
    else current :: joinFrom range rest

def joined : CharTable → CharTable
  | [] => []
  | range :: rest => joinFrom range rest

def beginsBy (a b : Nat × Nat) : Bool := a.1 ≤ b.1

/-- The normal form of any list of ranges. Ranges that end before they begin are dropped. -/
def normal (table : CharTable) : CharTable :=
  joined ((table.filter fun range => range.1 ≤ range.2).mergeSort beginsBy)

/-- Every second code point of each range, as capital and small letters often alternate. -/
def everySecond (table : CharTable) : CharTable :=
  table.flatMap fun (first, last) =>
    (List.range ((last - first) / 2 + 1)).map fun i => (first + 2 * i, first + 2 * i)

/-- The characters in one table or in both, each of which is in normal form. -/
def union (a b : CharTable) : CharTable := joined (List.merge a b beginsBy)

def lastCode : Nat := 0x10ffff

/-- The code points from `first` on that lie between ranges in normal form or behind them. -/
def gaps (first : Nat) : CharTable → CharTable
  | [] => if first ≤ lastCode then [(first, lastCode)] else []
  | range :: rest =>
    if first < range.1 then (first, range.1 - 1) :: gaps (range.2 + 1) rest
    else gaps (range.2 + 1) rest

def surrogates : CharTable := [(0xd800, 0xdfff)]

/-- The characters that are not in a table, which is in normal form. -/
def compl (table : CharTable) : CharTable := gaps 0 (union table surrogates)

/-- The characters in both tables, each of which is in normal form. -/
def inter (a b : CharTable) : CharTable := (a.compl.union b.compl).compl

def isAscii (table : CharTable) : Bool := table.all fun range => range.2 < 0x80

end CharTable

end RoutingPolicy.Text

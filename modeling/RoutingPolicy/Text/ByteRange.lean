import RoutingPolicy.Text.CharTable

/-!
# Characters as sequences of bytes

A text is stored as bytes, between one and four for a character (UTF-8). The characters of a range
are those whose bytes lie, place by place, in the ranges of one of a few sequences. The sequences
are listed in ascending order, and no two of them have a text in common.
-/

set_option autoImplicit false

namespace RoutingPolicy.Text

structure ByteRange where
  first : UInt8
  last : UInt8
  deriving DecidableEq

namespace ByteRange

/-- The characters whose encodings have one length: their first and last code point, and the sizes
of the blocks in which only the last byte varies, only the last two, and so on. -/
structure Window where
  first : Nat
  last : Nat
  blocks : List Nat

def windows : List Window := [
  ⟨0, 0x7f, []⟩, ⟨0x80, 0x7ff, [0x40]⟩, ⟨0x800, 0xd7ff, [0x40, 0x1000]⟩,
  ⟨0xe000, 0xffff, [0x40, 0x1000]⟩, ⟨0x10000, CharTable.lastCode, [0x40, 0x1000, 0x40000]⟩]

/-- Cuts a range of code points where it enters and leaves blocks in part. In each piece every byte
varies by itself. -/
def pieces : List Nat → Nat × Nat → List (Nat × Nat)
  | [], range => [range]
  | block :: blocks, (first, last) =>
    if first / block = last / block then [(first, last)]
    else
      let head := if first % block = 0 then first else first - first % block + block
      let tail := if last % block = block - 1 then last + 1 else last - last % block
      (if first < head then [(first, head - 1)] else []) ++
        (if head < tail then pieces blocks (head, tail - 1) else []) ++
        (if tail ≤ last then [(tail, last)] else [])

def between (range : Nat × Nat) : List ByteRange :=
  List.zipWith ByteRange.mk (String.utf8EncodeChar (Char.ofNat range.1))
    (String.utf8EncodeChar (Char.ofNat range.2))

def ofCodes (range : Nat × Nat) : List (List ByteRange) :=
  windows.flatMap fun window =>
    let first := max range.1 window.first
    let last := min range.2 window.last
    if first ≤ last then (pieces window.blocks (first, last)).map between else []

def ofTable (table : CharTable) : List (List ByteRange) := table.flatMap ofCodes

end ByteRange

end RoutingPolicy.Text

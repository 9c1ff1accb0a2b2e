/-!
# Parts of a text by byte positions

Some parts of a text lie at fixed positions, counted in bytes of its UTF-8 form. A position inside a
character divides nothing, so there is no part then.
-/

set_option autoImplicit false

namespace RoutingPolicy.Text

/-- The characters in the first `n` bytes and those behind, if a character ends there. -/
def splitBytes? : Nat → List Char → Option (List Char × List Char)
  | 0, cs => some ([], cs)
  | _ + 1, [] => none
  | n + 1, c :: cs =>
    if c.utf8Size ≤ n + 1 then
      (splitBytes? (n + 1 - c.utf8Size) cs).map fun (front, back) => (c :: front, back)
    else none

def takeBytes? (n : Nat) (s : String) : Option String :=
  (splitBytes? n s.toList).map fun (front, _) => String.ofList front

def dropBytes? (n : Nat) (s : String) : Option String :=
  (splitBytes? n s.toList).map fun (_, back) => String.ofList back

def sliceBytes? (start stop : Nat) (s : String) : Option String :=
  (takeBytes? stop s).bind (dropBytes? start)

end RoutingPolicy.Text

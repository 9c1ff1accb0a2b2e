import RoutingPolicy.Regex.Footprint.Budget

/-!
# The states for alternative words

Alternatives each of which is a text share what they begin with. A word that ends where others go on
comes before those that follow it, so the words behind it share nothing with the words before it
from there on.
-/

set_option autoImplicit false

namespace RoutingPolicy.Footprint

abbrev Word := List UInt8

/-- The words between those that end, in order. A second end counts only if some word goes on;
`current` are the words since the last end, last first. -/
def chunks (current : List Word) (goesOn isEnded : Bool) : List Word → List (List Word)
  | [] => [current.reverse]
  | [] :: rest =>
    if isEnded && !goesOn then chunks current goesOn isEnded rest
    else current.reverse :: chunks [] goesOn true rest
  | word :: rest => chunks (word :: current) true isEnded rest

def tails (words : List Word) : List (List Word) :=
  (words.filterMap (·.head?)).eraseDups.map fun byte =>
    (words.filter (·.head? = some byte)).map (·.drop 1)

/-- The bytes of a state beyond what each takes that reads one of several bytes. A single byte takes
none. -/
def choiceBytes (count : Nat) : Nat := if count = 1 then 0 else transitionBytes * count

def addWords : Nat → List Word → Construction Unit
  | 0, _ => pure ()
  | fuel + 1, words => do
    let chunks := chunks [] false false words
    let reading := chunks.filter (!·.isEmpty)
    reading.forM fun chunk => do
      let tails := tails chunk
      tails.forM fun tail => if tail.all (·.isEmpty) then pure () else addWords fuel tail
      let _ ← addState (choiceBytes tails.length)
    let _ ← addState (linkBytes * (reading.length + (chunks.length - 1)))

end RoutingPolicy.Footprint

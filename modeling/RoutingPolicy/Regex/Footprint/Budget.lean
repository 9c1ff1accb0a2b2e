/-!
# A budget for automata

An automaton is added up state by state, and its construction fails as soon as it takes more bytes
than the budget has. States are numbered in the order in which they are added. One from which other
states are reached without reading holds a link to each of them; links cost extra there, because
their number is not bounded.
-/

set_option autoImplicit false

namespace RoutingPolicy.Footprint

/-- How large an automaton is so far. -/
structure Size where
  states : Nat
  /-- The bytes that some states take beyond what each takes. -/
  extra : Nat
  deriving DecidableEq

def stateBytes : Nat := 32

/-- The bytes of a transition, where a state may have several. -/
def transitionBytes : Nat := 8

def linkBytes : Nat := 4

def Size.bytes (size : Size) : Nat := stateBytes * size.states + size.extra

def budget : Nat := 10 * 1024 * 1024

/-- A step of a construction. It may find the budget exceeded. -/
abbrev Construction (α : Type) := StateT Size Option α

/-- How the construction of a part leaves its last state. -/
inductive LooseEnd where
  /-- The state has room for the one link that it will hold. -/
  | plain
  /-- The state may hold several links, and each takes bytes. -/
  | branching
  deriving DecidableEq

def charge (size : Size) : Construction Unit := fun _ =>
  if size.bytes ≤ budget then some ((), size) else none

def addState (extra : Nat) : Construction Nat := do
  let size ← get
  charge ⟨size.states + 1, size.extra + extra⟩
  return size.states

def addStates (count : Nat) : Construction Unit := do
  let size ← get
  charge { size with states := size.states + count }

def addLinks (count : Nat) : Construction Unit := do
  let size ← get
  charge { size with extra := size.extra + linkBytes * count }

def close : LooseEnd → Construction Unit
  | .plain => pure ()
  | .branching => addLinks 1

/-- Builds a part so many times more, each linked to the one before. -/
def chain (part : Construction LooseEnd) : Nat → LooseEnd → Construction LooseEnd
  | 0, last => pure last
  | count + 1, last => do
    close last
    let next ← part
    chain part count next

/-- Builds a part so many times in a row, or a state that is passed if that is not at all. -/
def copies (part : Construction LooseEnd) : Nat → Construction LooseEnd
  | 0 => do
    addStates 1
    return .plain
  | count + 1 => do
    let first ← part
    chain part count first

/-- Builds a part so many times, each of which may be left out together with those behind it;
`last` is the state in front. -/
def optional (part : Construction LooseEnd) : Nat → LooseEnd → Construction LooseEnd
  | 0, last => do
    close last
    return .plain
  | count + 1, last => do
    addStates 1
    let next ← part
    close last
    addLinks 2
    optional part count next

end RoutingPolicy.Footprint

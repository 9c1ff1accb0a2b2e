import RoutingPolicy.Regex.Footprint.Budget
import RoutingPolicy.Text.ByteRange

/-!
# The states for a set of characters

An automaton reads bytes, so a set of characters becomes a small automaton for its sequences of
bytes. Forward, what neighbours begin with and what any of them end with is built once; backward,
only what they begin with is. To find what is built already, its state is remembered in one of a
fixed number of places, which a fingerprint chooses; a state that is remembered later in the same
place takes it over, and what is not found is built again.
-/

set_option autoImplicit false

namespace RoutingPolicy.Footprint

open Text

inductive Direction where
  | forward
  | backward
  deriving DecidableEq

/-- Places in which the numbers of states are remembered, each with a description of the state. -/
abbrev Memory := Array (Option (List Nat × Nat))

namespace Memory

def ofSize (places : Nat) : Memory := Array.replicate places none

/-- The fingerprint of a description: the hash FNV-1a, which takes one number after the other. -/
def fingerprint (description : List Nat) : UInt64 :=
  description.foldl (fun hash n => (hash ^^^ n.toUInt64) * 1099511628211) 14695981039346656037

def place (memory : Memory) (description : List Nat) : Nat :=
  (fingerprint description).toNat % memory.size

def stateAt? (memory : Memory) (place : Nat) (description : List Nat) : Option Nat :=
  match memory[place]? with
  | some (some (remembered, state)) => if remembered = description then some state else none
  | _ => none

def remember (memory : Memory) (place : Nat) (description : List Nat) (state : Nat) : Memory :=
  memory.setIfInBounds place (some (description, state))

end Memory

abbrev SetConstruction (α : Type) := StateT Memory (StateT Size Option) α

/-- The state with a description, which takes some bytes beyond what each takes. It is added if it
is not remembered. -/
def shared (description : List Nat) (extra : Nat) : SetConstruction Nat := do
  let place := (← get).place description
  match (← get).stateAt? place description with
  | some state => return state
  | none =>
    let state ← addState extra
    modify (·.remember place description state)
    return state

def groups (sequences : List (List ByteRange)) : List (List (List ByteRange)) :=
  sequences.splitBy fun a b => a.head? == b.head?

/-- The state from which sequences of at most `fuel` bytes are read forward, up to the state
`target`. The states behind it are built before it. -/
def forwardState (target : Nat) : Nat → List (List ByteRange) → SetConstruction Nat
  | 0, _ => pure target
  | fuel + 1, sequences =>
    if sequences.all (·.isEmpty) then pure target
    else do
      let transitions ← (groups sequences).mapM fun group => do
        let next ← forwardState target fuel (group.map (·.drop 1))
        return match group.head?.bind (·.head?) with
          | some range => [range.first.toNat, range.last.toNat, next]
          | none => []
      shared transitions.flatten (transitionBytes * transitions.length)

/-- The state from which a sequence is read backward; its first byte leads to the state `target`. -/
def backwardState (target : Nat) : List ByteRange → SetConstruction Nat
  | [] => pure target
  | range :: rest => do
    let state ← shared [target, range.first.toNat, range.last.toNat] 0
    backwardState state rest

def forwardPlaces : Nat := 10000

def backwardPlaces : Nat := 1000

/-- Builds the automaton for a set of characters. A set of ASCII characters takes one state that
reads, others several; backward, one state leads to each sequence of bytes. -/
def addSet (direction : Direction) (table : CharTable) : Construction LooseEnd := do
  if table.isAscii then
    addStates 1
    let _ ← addState (transitionBytes * table.length)
  else
    let sequences := ByteRange.ofTable table
    match direction with
    | .forward =>
      let target ← addState 0
      let _ ← (forwardState target 4 sequences).run (.ofSize forwardPlaces)
    | .backward =>
      let _ ← addState 0
      let target ← addState 0
      let _ ← (sequences.forM fun sequence => do
        let _ ← backwardState target sequence).run (.ofSize backwardPlaces)
      addLinks sequences.length
  return .plain

end RoutingPolicy.Footprint

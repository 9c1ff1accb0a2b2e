import RoutingPolicy.Regex.Footprint.Characters
import RoutingPolicy.Regex.Footprint.Words
import RoutingPolicy.Regex.Shape

/-!
# The size of the automaton for a pattern

A pattern is accepted if the automata that search a text for it, one reading forward and one
backward, stay within a budget of bytes. Only their sizes are found here: a repetition is written
out as often as its bounds say, a set of characters takes the states that its bytes need, and every
other part takes a fixed number of states. Only the automaton that reads forward captures.
-/

set_option autoImplicit false

namespace RoutingPolicy

open Footprint

namespace Shape

def text? : Shape → Option (List Char)
  | literal text => some text
  | _ => none

def utf8 (text : List Char) : List UInt8 := text.flatMap String.utf8EncodeChar

mutual

def build (direction : Direction) : Shape → Construction LooseEnd
  | nothing => do
    addStates 1
    return .plain
  | literal text => do
    addStates (utf8 text).length
    return .plain
  | set table => addSet direction table
  | look _ => do
    addStates 1
    return .plain
  | repeated _ 0 (some 1) a => do
    addStates 1
    let last ← a.build direction
    addStates 1
    addLinks 2
    close last
    return .plain
  | repeated _ 0 none a =>
    if a.alwaysReads then do
      addStates 1
      let last ← a.build direction
      addLinks 1
      close last
      return .branching
    else do
      let last ← a.build direction
      close last
      addStates 3
      addLinks 4
      return .plain
  | repeated _ (min + 1) none a => do
    let last ← copies (a.build direction) (min + 1)
    close last
    addStates 1
    addLinks 1
    return .branching
  | repeated _ min (some max) a => do
    let last ← copies (a.build direction) min
    if min = max then return last
    else
      addStates 1
      optional (a.build direction) (max - min) last
  | group a =>
    match direction with
    | .forward => do
      addStates 1
      let last ← a.build direction
      addStates 1
      close last
      return .plain
    | .backward => a.build direction
  | sequence parts =>
    match direction with
    | .forward => buildForward parts
    | .backward => buildBackward parts
  | choice branches =>
    match branches.mapM text? with
    | some texts => do
      let words := texts.map utf8
      let words := if direction = .forward then words else words.map List.reverse
      addStates 1
      addWords ((words.map List.length).sum + 1) words
      return .plain
    | none => do
      buildBranches direction 0 branches
      addLinks branches.length
      return .plain

def buildForward : List Shape → Construction LooseEnd
  | [] => pure .plain
  | [a] => a.build .forward
  | a :: b :: rest => do
    let last ← a.build .forward
    close last
    buildForward (b :: rest)

def buildBackward : List Shape → Construction LooseEnd
  | [] => pure .plain
  | [a] => a.build .backward
  | a :: b :: rest => do
    let last ← buildBackward (b :: rest)
    close last
    a.build .backward

/-- Builds alternatives, of which `count` are built before, and links the last state of each to what
follows. The two states between which all stand are added behind the second. -/
def buildBranches (direction : Direction) : Nat → List Shape → Construction Unit
  | _, [] => pure ()
  | count, a :: rest => do
    let last ← a.build direction
    if count = 1 then addStates 2
    close last
    buildBranches direction (count + 1) rest

end

/-- Builds what passes over the text in front of a match: a loop that reads any byte, or one state
if a match can only begin where the search does. -/
def buildSkip (anchored : Bool) : Construction Unit :=
  if anchored then addStates 1
  else do
    addStates 2
    let _ ← addState transitionBytes
    addLinks 2

def buildSearch (direction : Direction) (a : Shape) : Construction Unit :=
  match direction with
  | .forward => do
    buildSkip (a.beginsWith .textStart)
    let last ← a.group.build .forward
    close last
    addStates 1
  | .backward => do
    buildSkip (a.endsWith .textEnd)
    let last ← a.build .backward
    close last
    addStates 1

/-- The size of the automaton that searches in one direction, if it is within the budget. -/
def footprint? (direction : Direction) (a : Shape) : Option Size :=
  ((a.buildSearch direction).run ⟨0, 0⟩).map (·.2)

def fits (a : Shape) : Bool := (a.footprint? .forward).isSome && (a.footprint? .backward).isSome

end Shape

def Regex.fits (r : Regex) : Bool := r.shape.fits

end RoutingPolicy

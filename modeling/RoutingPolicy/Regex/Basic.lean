import RoutingPolicy.Regex.CharSet

/-!
# Regular expressions

A regular expression relates positions of a text. The matcher computes, for a set of positions at
which a match may begin, the set of positions at which it may end; both sets are lists of truth
values, one for each position from the front of the text to its end. The text matches when some end
is reached from some beginning. Groups and the preference of a repetition for many or for few do not
change what matches; the size of an expression depends on them.
-/

set_option autoImplicit false

namespace RoutingPolicy

inductive WordCondition where
  | boundary
  | notBoundary
  | start
  | finish
  | startHalf
  | finishHalf
  deriving DecidableEq

def WordCondition.holds : WordCondition → (before behind : Bool) → Bool
  | boundary, before, behind => before != behind
  | notBoundary, before, behind => before == behind
  | start, before, behind => !before && behind
  | finish, before, behind => before && !behind
  | startHalf, before, _ => !before
  | finishHalf, _, behind => !behind

inductive Look where
  | textStart
  | textEnd
  /-- A line ends with a line feed, or also with a carriage return or both. -/
  | lineStart (returns : Bool)
  | lineEnd (returns : Bool)
  /-- The characters of words are those of ASCII, or those of all scripts. -/
  | word (ofAscii : Bool) (condition : WordCondition)
  deriving DecidableEq

def Look.holds (look : Look) (before behind : Option Char) : Bool :=
  match look with
  | textStart => before.isNone
  | textEnd => behind.isNone
  | lineStart false => before.all (· == '\n')
  | lineEnd false => behind.all (· == '\n')
  -- Between a carriage return and a line feed no line ends.
  | lineStart true => before.all (· == '\n') || before == some '\r' && behind != some '\n'
  | lineEnd true => behind.all (· == '\r') || behind == some '\n' && before != some '\r'
  | word ofAscii condition =>
    let isPart (c : Char) := Text.isWordChar c && (!ofAscii || c.toNat < 0x80)
    condition.holds (before.any isPart) (behind.any isPart)

inductive Regex where
  | empty
  | one (set : CharSet)
  /-- Nothing is read, but the position satisfies a condition. -/
  | look (condition : Look)
  | cat (a b : Regex)
  | alt (a b : Regex)
  /-- At least `min` times the expression, and at most `max` times if there is a bound. A greedy
  repetition prefers many times, the others few. -/
  | repeated (greedy : Bool) (min : Nat) (max : Option Nat) (a : Regex)
  /-- An expression in parentheses, which may capture what it reads. -/
  | group (captures : Bool) (a : Regex)
  deriving DecidableEq

abbrev Positions := List Bool

namespace Positions

def union (a b : Positions) : Positions := List.zipWith (· || ·) a b

def inter (a b : Positions) : Positions := List.zipWith (· && ·) a b

/-- The positions behind a character of `set` before which a given position lies. -/
def advance (set : CharSet) (text : List Char) (starts : Positions) : Positions :=
  false :: List.zipWith (fun reached c => reached && set.contains c) starts text

/-- The positions that satisfy a condition; `before` is the character in front of the text. -/
def satisfying (condition : Look) (before : Option Char) : List Char → Positions
  | [] => [condition.holds before none]
  | c :: rest => condition.holds before (some c) :: satisfying condition (some c) rest

def minus (a b : Positions) : Positions := List.zipWith (fun x y => x && !y) a b

def nowhere (a : Positions) : Positions := a.map fun _ => false

/-- Applies a step so many times. It ends early when a step changes nothing. -/
def iterate (step : Positions → Positions) : Nat → Positions → Positions
  | 0, reached => reached
  | count + 1, reached =>
    let next := step reached
    if next = reached then reached else iterate step count next

theorem repeat_of_fixed {step : Positions → Positions} {reached : Positions}
    (fixed : step reached = reached) (count : Nat) : Nat.repeat step count reached = reached := by
  induction count with
  | zero => rfl
  | succ count induction =>
    change step (Nat.repeat step count reached) = reached
    rw [induction, fixed]

theorem repeat_step (step : Positions → Positions) (count : Nat) (reached : Positions) :
    Nat.repeat step count (step reached) = step (Nat.repeat step count reached) := by
  induction count with
  | zero => rfl
  | succ count induction =>
    change step (Nat.repeat step count (step reached)) = _
    rw [induction]
    rfl

theorem iterate_eq_repeat (step : Positions → Positions) (count : Nat) (reached : Positions) :
    iterate step count reached = Nat.repeat step count reached := by
  induction count generalizing reached with
  | zero => rfl
  | succ count induction =>
    rw [iterate]
    split
    · next fixed => exact (repeat_of_fixed fixed (count + 1)).symm
    · rw [induction, repeat_step]
      rfl

/-- The positions that one step or more, up to `fuel`, reach from the frontier. Steps from the
positions that were seen are taken already, so none is taken twice. -/
def onward (step : Positions → Positions) : Nat → Positions → Positions → Positions
  | 0, _, frontier => frontier.nowhere
  | fuel + 1, seen, frontier =>
    let next := step frontier
    let fresh := next.minus seen
    if fresh.any id then next.union (onward step fuel (seen.union fresh) fresh) else next

def every (text : List Char) : Positions := List.replicate (text.length + 1) true

end Positions

namespace Regex

open Positions

/-- The positions at which a match ends that begins at one of the given positions. An unbounded
repetition takes no more steps than the text has positions, and one to see that none is left. -/
def ends (text : List Char) : Regex → Positions → Positions
  | empty, starts => starts
  | one set, starts => advance set text starts
  | look condition, starts => starts.inter (satisfying condition none text)
  | cat a b, starts => ends text b (ends text a starts)
  | alt a b, starts => (ends text a starts).union (ends text b starts)
  | repeated _ min (some max) a, starts =>
    let required := iterate (ends text a) min starts
    required.union (onward (ends text a) (max - min) required required)
  | repeated _ 0 none a, starts =>
    starts.union (onward (ends text a) (text.length + 2) starts starts)
  | repeated _ (min + 1) none a, starts =>
    let required := iterate (ends text a) min starts
    onward (ends text a) (text.length + 2) required required
  | group _ a, starts => ends text a starts

def isMatch (r : Regex) (s : String) : Bool :=
  (r.ends s.toList (every s.toList)).any id

def sequence : List Regex → Regex
  | [] => empty
  | [r] => r
  | r :: rest => cat r (sequence rest)

def choice : List Regex → Regex
  | [] => empty
  | [r] => r
  | r :: rest => alt r (choice rest)

end Regex

end RoutingPolicy

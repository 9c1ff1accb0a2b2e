import RoutingPolicy.Regex.Basic

/-!
# The normal form of a regular expression

An automaton is not made from an expression as it is written, but from its normal form. There,
characters in a row are one text, and alternatives that are single characters are one set; what
reads nothing is not repeated more than once; nested sequences and nested alternatives are flat; and
a beginning that all alternatives share stands before them.
-/

set_option autoImplicit false

namespace RoutingPolicy

inductive Shape where
  | nothing
  | literal (text : List Char)
  | set (table : Text.CharTable)
  /-- Nothing is read, but the position satisfies a condition. -/
  | look (condition : Look)
  /-- At least `min` times the expression, and at most `max` times if there is a bound. -/
  | repeated (greedy : Bool) (min : Nat) (max : Option Nat) (a : Shape)
  | group (a : Shape)
  | sequence (parts : List Shape)
  | choice (branches : List Shape)

namespace Shape

mutual

/-- Whether two expressions are the same. Groups have numbers, so no two of them are. -/
def same : Shape → Shape → Bool
  | nothing, nothing => true
  | literal s, literal t => s == t
  | set s, set t => s == t
  | look c, look d => c == d
  | repeated greedy min max a, repeated greedy' min' max' b =>
    greedy == greedy' && min == min' && max == max' && same a b
  | sequence as, sequence bs => sameAll as bs
  | choice as, choice bs => sameAll as bs
  | _, _ => false

def sameAll : List Shape → List Shape → Bool
  | [], [] => true
  | a :: as, b :: bs => same a b && sameAll as bs
  | _, _ => false

end

mutual

def readsNothing : Shape → Bool
  | nothing => true
  | look _ => true
  | literal _ => false
  | set _ => false
  | repeated _ _ _ a => a.readsNothing
  | group a => a.readsNothing
  | sequence parts => allReadNothing parts
  | choice branches => allReadNothing branches

def allReadNothing : List Shape → Bool
  | [] => true
  | a :: rest => a.readsNothing && allReadNothing rest

end

mutual

/-- The length of the shortest texts that match, conditions on positions aside. It is not given if a
part is the empty set. -/
def minLength? : Shape → Option Nat
  | nothing => some 0
  | look _ => some 0
  | literal text => some text.length
  | set table => if table.isEmpty then none else some 1
  | repeated _ min _ a => a.minLength?.map (min * ·)
  | group a => a.minLength?
  | sequence parts => sumLength? parts
  | choice branches => leastLength? branches

def sumLength? : List Shape → Option Nat
  | [] => some 0
  | a :: rest =>
    match a.minLength?, sumLength? rest with
    | some m, some n => some (m + n)
    | _, _ => none

def leastLength? : List Shape → Option Nat
  | [] => none
  | [a] => a.minLength?
  | a :: b :: rest =>
    match a.minLength?, leastLength? (b :: rest) with
    | some m, some n => some (min m n)
    | _, _ => none

end

def alwaysReads (a : Shape) : Bool := a.minLength?.any (0 < ·)

mutual

def beginsWith (condition : Look) : Shape → Bool
  | look c => c == condition
  | repeated _ min _ a => 0 < min && a.beginsWith condition
  | group a => a.beginsWith condition
  | sequence parts => sequenceBeginsWith condition parts
  | choice branches => allBeginWith condition branches
  | _ => false

/-- Whether it is known from the parts up to the first that reads something. -/
def sequenceBeginsWith (condition : Look) : List Shape → Bool
  | [] => false
  | a :: rest => a.beginsWith condition || a.readsNothing && sequenceBeginsWith condition rest

def allBeginWith (condition : Look) : List Shape → Bool
  | [] => true
  | a :: rest => a.beginsWith condition && allBeginWith condition rest

end

mutual

def endsWith (condition : Look) : Shape → Bool
  | look c => c == condition
  | repeated _ min _ a => 0 < min && a.endsWith condition
  | group a => a.endsWith condition
  | sequence parts => sequenceEndsWith condition parts
  | choice branches => allEndWith condition branches
  | _ => false

def sequenceEndsWith (condition : Look) : List Shape → Bool
  | [] => false
  | a :: rest =>
    sequenceEndsWith condition rest || allReadNothing rest && a.endsWith condition

def allEndWith (condition : Look) : List Shape → Bool
  | [] => true
  | a :: rest => a.endsWith condition && allEndWith condition rest

end

def parts : Shape → List Shape
  | nothing => []
  | sequence parts => parts
  | a => [a]

def branches : Shape → List Shape
  | choice branches => branches
  | a => [a]

def ofParts : List Shape → Shape
  | [] => nothing
  | [a] => a
  | parts => sequence parts

/-- The parts of two sequences one after the other; texts that meet are joined. -/
def joinParts : List Shape → List Shape → List Shape
  | [], bs => bs
  | [literal s], literal t :: bs => literal (s ++ t) :: bs
  | a :: as, bs => a :: joinParts as bs

def followedBy (a b : Shape) : Shape := ofParts (joinParts a.parts b.parts)

def ofTable : Text.CharTable → Shape
  | [(first, last)] => if first = last then literal [Char.ofNat first] else set [(first, last)]
  | table => set table

def again (greedy : Bool) (min : Nat) (max : Option Nat) (a : Shape) : Shape :=
  let min := if a.readsNothing then Nat.min min 1 else min
  let max := if a.readsNothing then some ((max.getD 1).min 1) else max
  if max = some 0 then nothing
  else if min = 1 ∧ max = some 1 then a
  else repeated greedy min max a

def char? : Shape → Option Char
  | literal [c] => some c
  | _ => none

def table? : Shape → Option Text.CharTable
  | set table => some table
  | _ => none

def sequence? : Shape → Option (List Shape)
  | sequence parts => some parts
  | _ => none

def sharedLength : List Shape → List Shape → Nat
  | a :: as, b :: bs => if same a b then sharedLength as bs + 1 else 0
  | _, _ => 0

mutual

def size : Shape → Nat
  | repeated _ _ _ a => a.size + 1
  | group a => a.size + 1
  | sequence parts => sizes parts + 1
  | choice branches => sizes branches + 1
  | _ => 1

def sizes : List Shape → Nat
  | [] => 0
  | a :: rest => a.size + sizes rest

end

/-- One of several expressions. What all share at the front is moved before the choice, at most
`fuel` times. -/
def oneOf : Nat → List Shape → Shape
  | _, [] => set []
  | _, [a] => a
  | fuel, a :: b :: rest =>
    let branches := (a :: b :: rest).flatMap branches
    match branches.mapM char?, branches.mapM table?, branches.mapM sequence?, fuel with
    | some chars, _, _, _ => ofTable (.normal (chars.map fun c => (c.toNat, c.toNat)))
    | none, some tables, _, _ => ofTable (.normal tables.flatten)
    | none, none, some (first :: more), fuel + 1 =>
      let shared := more.foldl (fun n parts => min n (sharedLength first parts)) first.length
      if shared = 0 then choice branches
      else
        let tails := (first :: more).map fun parts => ofParts (parts.drop shared)
        (ofParts (first.take shared)).followedBy (oneOf fuel tails)
    | _, _, _, _ => choice branches

def anyOf (branches : List Shape) : Shape := oneOf (sizes branches) branches

end Shape

namespace Regex

def shapes : Regex → List Shape
  | empty => [.nothing]
  | one set => [.ofTable set.table]
  | look condition => [.look condition]
  | cat a b => [(Shape.anyOf a.shapes).followedBy (Shape.anyOf b.shapes)]
  | alt a b => Shape.anyOf a.shapes :: b.shapes
  | repeated greedy min max a => [(Shape.anyOf a.shapes).again greedy min max]
  | group true a => [.group (Shape.anyOf a.shapes)]
  | group false a => [Shape.anyOf a.shapes]

def shape (r : Regex) : Shape := Shape.anyOf r.shapes

end Regex

end RoutingPolicy

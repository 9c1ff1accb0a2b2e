import RoutingPolicy.Regex.Reader.Escape

/-!
# Brackets in patterns

A bracket expression lists characters, classes and ranges, and may hold other bracket expressions.
Operators between its parts form intersections and differences.
-/

set_option autoImplicit false

namespace RoutingPolicy.Regex

/-! ### Nesting -/

structure Nested (α : Type) where
  value : α
  /-- How many parts with parts of their own are nested in each other. -/
  depth : Nat

/-- The depth of what has parts of the given depths. One part stands for itself. -/
def jointDepth : List Nat → Nat
  | [] => 0
  | [depth] => depth
  | depth :: depths => depths.foldl max depth + 1

/-! ### Parts -/

/-- Operators between the parts of a bracket expression; all bind alike, from the left. -/
inductive SetOperator where
  | inter
  | minus
  | symmDiff

abbrev Pending := Option (Nested CharSet × SetOperator)

structure SetParts where
  set : CharSet
  depths : List Nat

namespace SetParts

def none : SetParts := ⟨.empty, []⟩

def push (parts : SetParts) (part : Nested CharSet) : SetParts :=
  ⟨parts.set.union part.value, part.depth :: parts.depths⟩

def pushFlat (parts : SetParts) (set : CharSet) : SetParts := parts.push ⟨set, 0⟩

def whole (parts : SetParts) : Nested CharSet := ⟨parts.set, jointDepth parts.depths⟩

end SetParts

def combine (flags : Flags) (pending : Pending) (parts : SetParts) : Nested CharSet :=
  match pending with
  | none => parts.whole
  | some (left, operator) =>
    let depth := max left.depth parts.whole.depth + 1
    let left := flags.folded left.value
    let right := flags.folded parts.set
    match operator with
    | .inter => ⟨left.inter right, depth⟩
    | .minus => ⟨left.minus right, depth⟩
    | .symmDiff => ⟨left.symmDiff right, depth⟩

/-- The start of a bracket expression, behind its bracket: whether it is negated, and the literal
minus signs or the literal bracket that may stand first. -/
def openBracket (flags : Flags) (cs : List Char) : Bool × SetParts × List Char :=
  let (negated, cs) := match flags.skip cs with
    | '^' :: rest => (true, flags.skip rest)
    | cs => (false, cs)
  match cs with
  | '-' :: _ =>
    let (signs, rest) := flags.takeRun (· == '-') false cs
    (negated, (signs.map CharSet.single).foldl SetParts.pushFlat .none, rest)
  | ']' :: rest => (negated, SetParts.none.pushFlat (.single ']'), rest)
  | cs => (negated, .none, cs)

def takeNamedClass? : List Char → Option ((Bool × CharSet) × List Char)
  | ':' :: rest =>
    let (negated, rest) := match rest with
      | '^' :: rest => (true, rest)
      | rest => (false, rest)
    match rest.dropWhile (· != ':') with
    | ':' :: ']' :: behind =>
      (CharSet.named? (String.ofList (rest.takeWhile (· != ':')))).map fun set =>
        ((negated, set), behind)
    | _ => none
  | _ => none

def takeBracketAtom? (flags : Flags) : List Char → Option (Atom × List Char)
  | [] => none
  | '\\' :: rest => takeEscape? flags rest
  | c :: rest => some (.char c, rest)

def Flags.bound? (flags : Flags) : Atom → Option Char
  | .char c => if flags.ofAscii && 0x80 ≤ c.toNat then Option.none else some c
  | _ => Option.none

def Flags.member? (flags : Flags) : Atom → Option CharSet
  | .set s => some s
  | atom => (flags.bound? atom).map .single

/-- One character, class or range in brackets. A minus sign in front of the closing bracket or of
another minus sign makes no range. -/
def takeBracketItem? (flags : Flags) (cs : List Char) : Option (CharSet × List Char) := do
  let (first, rest) ← takeBracketAtom? flags cs
  match flags.skip rest with
  | [] => none
  | '-' :: behind =>
    match flags.skip behind with
    | ']' :: _ => (flags.member? first).map (·, '-' :: behind)
    | '-' :: _ => (flags.member? first).map (·, '-' :: behind)
    | behind => do
      let (second, rest) ← takeBracketAtom? flags behind
      let low ← flags.bound? first
      let high ← flags.bound? second
      if low ≤ high then some (.range low high, rest) else none
  | rest => (flags.member? first).map (·, rest)

/-- The rest of a bracket expression up to the bracket that closes it, which `fuel` steps reach. The
set is neither folded nor negated yet. -/
def takeBracket? (flags : Flags) :
    Nat → Pending → SetParts → List Char → Option (Nested CharSet × List Char)
  | 0, _, _, _ => none
  | fuel + 1, pending, parts, cs =>
    match flags.skip cs with
    | ']' :: rest => some (combine flags pending parts, rest)
    | '[' :: rest =>
      match takeNamedClass? rest with
      | some ((negated, set), rest) => do
        takeBracket? flags fuel pending (parts.pushFlat (← flags.closed? negated set)) rest
      | none => do
        let (negated, literal, rest) := openBracket flags rest
        let (inner, rest) ← takeBracket? flags fuel none literal rest
        let part := ⟨← flags.closed? negated inner.value, inner.depth + 1⟩
        takeBracket? flags fuel pending (parts.push part) rest
    | '&' :: '&' :: rest =>
      takeBracket? flags fuel (some (combine flags pending parts, .inter)) .none rest
    | '-' :: '-' :: rest =>
      takeBracket? flags fuel (some (combine flags pending parts, .minus)) .none rest
    | '~' :: '~' :: rest =>
      takeBracket? flags fuel (some (combine flags pending parts, .symmDiff)) .none rest
    | cs => do
      let (item, rest) ← takeBracketItem? flags cs
      takeBracket? flags fuel pending (parts.pushFlat item) rest

def takeCharSet? (flags : Flags) (cs : List Char) : Option (Nested CharSet × List Char) := do
  let (negated, literal, rest) := openBracket flags cs
  let (inner, rest) ← takeBracket? flags (rest.length + 1) none literal rest
  return (⟨← flags.closed? negated inner.value, inner.depth + 1⟩, rest)

end RoutingPolicy.Regex

import RoutingPolicy.Regex.Footprint
import RoutingPolicy.Regex.Reader.Bracket
import RoutingPolicy.Text.Alphanumeric

/-!
# Reading patterns

A pattern is read from left to right into a regular expression. An expression in parentheses may be
named and may set flags; `(?i)` alone sets flags up to the end of the group that it stands in. A
repetition needs something to repeat, which is neither the front of a branch nor a setting of flags.
Look-around and references back to a group are not regular, and are refused with everything else
that is not a pattern. So is a pattern that nests too deep, and one whose automaton would be too
large.
-/

set_option autoImplicit false

namespace RoutingPolicy.Regex

/-! ### Repetition -/

structure Bounds where
  min : Nat
  /-- The greatest number of times, if there is one. -/
  max : Option Nat

def takeCount? (flags : Flags) (cs : List Char) : Option (Nat × List Char) :=
  match flags.takeRun Char.isDigit false ((flags.skip cs).dropWhile Text.isBlank) with
  | ([], _) => none
  | (digits, rest) =>
    let n := Nat.ofDigitChars 10 digits 0
    if n < UInt32.size then some (n, flags.skip (rest.dropWhile Text.isBlank)) else none

def takeBounds? (flags : Flags) (cs : List Char) : Option (Bounds × List Char) := do
  let (min, rest) ← takeCount? flags cs
  match rest with
  | '\x7d' :: rest => return (⟨min, some min⟩, rest)
  | ',' :: rest =>
    match flags.skip rest with
    | '\x7d' :: rest => return (⟨min, none⟩, rest)
    | rest =>
      let (max, rest) ← takeCount? flags rest
      match rest with
      | '\x7d' :: rest => if min ≤ max then some (⟨min, some max⟩, rest) else none
      | _ => none
  | _ => none

/-! ### Groups -/

inductive GroupStart where
  /-- A setting of flags for the rest of the surrounding group. -/
  | setting (flags : Flags)
  /-- A group with its flags, and with its name if it has one. -/
  | group (captures : Bool) (flags : Flags) (name : Option (List Char))

def isGroupNameChar (isFirst : Bool) (c : Char) : Bool :=
  c == '_' || Text.isAlphabetic c ||
    (!isFirst && (Text.isNumeric c || c == '.' || c == '[' || c == ']'))

def takeGroupName? (cs : List Char) : Option (List Char × List Char) :=
  let name := cs.takeWhile (· != '>')
  match name, cs.dropWhile (· != '>') with
  | first :: more, _ :: rest =>
    if isGroupNameChar true first && more.all (isGroupNameChar false) then some (name, rest)
    else none
  | _, _ => none

/-- What an opening parenthesis begins, behind that parenthesis. -/
def takeGroupStart? (flags : Flags) : List Char → Option (GroupStart × List Char)
  | '?' :: 'P' :: '<' :: rest =>
    (takeGroupName? rest).map fun (name, rest) => (.group true flags (some name), rest)
  | '?' :: '<' :: '=' :: _ => none
  | '?' :: '<' :: '!' :: _ => none
  | '?' :: '<' :: rest =>
    (takeGroupName? rest).map fun (name, rest) => (.group true flags (some name), rest)
  | '?' :: ')' :: _ => none
  | '?' :: rest =>
    match takeFlags? flags true [] rest with
    | some (flags, ':' :: rest) => some (.group false flags none, rest)
    | some (flags, _ :: rest) => some (.setting flags, rest)
    | _ => none
  | rest => some (.group true flags none, rest)

structure Progress where
  flags : Flags
  names : List (List Char)
  /-- The finished branches, last first. -/
  branches : List (Nested Regex)
  /-- The parts of the current branch, last first. -/
  parts : List (Nested Regex)
  repeatable : Bool

namespace Progress

def start (flags : Flags) (names : List (List Char)) : Progress := ⟨flags, names, [], [], false⟩

def push (p : Progress) (part : Nested Regex) : Progress :=
  { p with parts := part :: p.parts, repeatable := true }

def pushFlat (p : Progress) (part : Regex) : Progress := p.push ⟨part, 0⟩

/-- Repeats the last part, if it may be, with or without the mark that exchanges its greed. -/
def repeatLast? (p : Progress) (bounds : Bounds) (marked : Bool) : Option Progress :=
  match p.repeatable, p.parts with
  | true, last :: parts =>
    let again := .repeated (marked == p.flags.exchangesGreed) bounds.min bounds.max last.value
    some { p with parts := ⟨again, last.depth + 1⟩ :: parts }
  | _, _ => none

def branch (p : Progress) : Nested Regex :=
  ⟨sequence (p.parts.reverse.map (·.value)), jointDepth (p.parts.map (·.depth))⟩

def nextBranch (p : Progress) : Progress :=
  { p with branches := p.branch :: p.branches, parts := [], repeatable := false }

def finish (p : Progress) : Nested Regex :=
  let branches := (p.branch :: p.branches).reverse
  ⟨choice (branches.map (·.value)), jointDepth (branches.map (·.depth))⟩

/-- Gives the flags other values. The setting is a part that reads nothing and is not repeated. -/
def setFlags (p : Progress) (flags : Flags) : Progress :=
  { p.pushFlat .empty with flags := flags, repeatable := false }

def name? (p : Progress) : Option (List Char) → Option (List (List Char))
  | none => some p.names
  | some name => if p.names.contains name then none else some (name :: p.names)

end Progress

def Flags.char (flags : Flags) (c : Char) : Regex := .one (flags.folded (.single c))

def Flags.point? (flags : Flags) : Option Regex :=
  if flags.ofAscii then Option.none
  else if flags.pointMatchesAll then some (.one .all)
  else
    let ends := CharSet.single '\n'
    some (.one (if flags.returnsEndLines then ends.union (.single '\r') else ends).compl)

def Flags.atom (flags : Flags) : Atom → Regex
  | .char c => flags.char c
  | .set s => .one s
  | .condition c => .look c

def Flags.front (flags : Flags) : Regex :=
  .look (if flags.multiLine then .lineStart flags.returnsEndLines else .textStart)

def Flags.back (flags : Flags) : Regex :=
  .look (if flags.multiLine then .lineEnd flags.returnsEndLines else .textEnd)

def takeRepetition? (p : Progress) (bounds : Bounds) : List Char → Option (Progress × List Char)
  | '?' :: rest => (p.repeatLast? bounds true).map (·, rest)
  | rest => (p.repeatLast? bounds false).map (·, rest)

/-- Reads a group up to the parenthesis that closes it or the end, which `fuel` steps reach. Returns
the expression, the names of groups taken, and what follows. -/
def takeGroup? :
    Nat → Progress → List Char → Option (Nested Regex × List (List Char) × List Char)
  | 0, _, _ => none
  | fuel + 1, p, cs =>
    match p.flags.skip cs with
    | [] => some (p.finish, p.names, [])
    | ')' :: rest => some (p.finish, p.names, ')' :: rest)
    | '|' :: rest => takeGroup? fuel p.nextBranch rest
    | '(' :: rest =>
      match takeGroupStart? p.flags (p.flags.skip rest) with
      | none => none
      | some (.setting flags, rest) => takeGroup? fuel (p.setFlags flags) rest
      | some (.group captures flags name, rest) => do
        let names ← p.name? name
        let (inner, names, rest) ← takeGroup? fuel (.start flags names) rest
        let part := ⟨.group captures inner.value, inner.depth + 1⟩
        match rest with
        | ')' :: rest => takeGroup? fuel ({ p with names := names }.push part) rest
        | _ => none
    | '[' :: rest => do
      let (set, rest) ← takeCharSet? p.flags rest
      takeGroup? fuel (p.push ⟨.one set.value, set.depth⟩) rest
    | '?' :: rest => do
      let (p, rest) ← takeRepetition? p ⟨0, some 1⟩ rest
      takeGroup? fuel p rest
    | '*' :: rest => do
      let (p, rest) ← takeRepetition? p ⟨0, none⟩ rest
      takeGroup? fuel p rest
    | '+' :: rest => do
      let (p, rest) ← takeRepetition? p ⟨1, none⟩ rest
      takeGroup? fuel p rest
    | '\x7b' :: rest => do
      let (bounds, rest) ← takeBounds? p.flags rest
      let (p, rest) ← takeRepetition? p bounds (p.flags.skip rest)
      takeGroup? fuel p rest
    | '\\' :: rest => do
      let (atom, rest) ← takeEscape? p.flags rest
      takeGroup? fuel (p.pushFlat (p.flags.atom atom)) rest
    | '.' :: rest => do takeGroup? fuel (p.pushFlat (← p.flags.point?)) rest
    | '^' :: rest => takeGroup? fuel (p.pushFlat p.flags.front) rest
    | '$' :: rest => takeGroup? fuel (p.pushFlat p.flags.back) rest
    | c :: rest => takeGroup? fuel (p.pushFlat (p.flags.char c)) rest

def maxDepth : Nat := 250

inductive Refusal where
  | malformed
  /-- Its automaton would be too large. -/
  | tooLarge
  deriving DecidableEq

/-- What is said about a pattern that is refused. How its fault is worded, where it is malformed, is
given by `fault`. -/
def Refusal.message (fault : String → String) (pattern : String) : Refusal → String
  | malformed => fault pattern
  | tooLarge => "Compiled regex exceeds size limit of 10485760 bytes."

/-- What a pattern denotes, however deep it nests and however large its automaton is. -/
def parse? (pattern : String) : Option (Nested Regex) :=
  let cs := pattern.toList
  match takeGroup? (cs.length + 1) (.start .none []) cs with
  | some (r, _, []) => some r
  | _ => none

def read (pattern : String) : Except Refusal Regex :=
  match parse? pattern with
  | none => .error .malformed
  | some r =>
    if r.depth ≤ maxDepth then if r.value.fits then .ok r.value else .error .tooLarge
    else .error .malformed

def read? (pattern : String) : Option Regex := (read pattern).toOption

end RoutingPolicy.Regex

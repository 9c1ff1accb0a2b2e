import RoutingPolicy.Regex.Property
import RoutingPolicy.Regex.Reader.Flags
import RoutingPolicy.Text.Hex

/-!
# Escapes in patterns

Behind a backslash stands a character that has no meaning there, a class, a condition, or the code
of a character.
-/

set_option autoImplicit false

namespace RoutingPolicy.Regex

inductive Atom where
  | char (c : Char)
  | set (s : CharSet)
  | condition (look : Look)

/-- Whether a backslash takes away what meaning the character may have. -/
def isEscapable (c : Char) : Bool :=
  c.toNat < 0x80 && !c.isAlphanum && c != '<' && c != '>'

/-! ### Codes of characters -/

def hexChar? (digits : List Char) : Option Char :=
  if digits.isEmpty then none
  else (Text.readHex? digits).bind fun n => if n.isValidChar then some (Char.ofNat n) else none

def takeHexDigits? (flags : Flags) : Nat → List Char → Option (List Char × List Char)
  | 0, cs => some ([], cs)
  | _ + 1, [] => none
  | count + 1, c :: rest =>
    if (Text.hexDigit? c).isSome then
      (takeHexDigits? flags count (flags.skip rest)).map fun (digits, rest) => (c :: digits, rest)
    else none

/-- The character written by `count` hexadecimal digits, or by any number of them in braces. Two
digits write a byte, so where Unicode is switched off they write a character of ASCII only. -/
def takeHex? (flags : Flags) (count : Nat) (cs : List Char) : Option (Char × List Char) :=
  match flags.skip cs with
  | '\x7b' :: rest =>
    match flags.takeRun (· != '\x7d') false rest with
    | (digits, _ :: behind) => (hexChar? digits).map (·, behind)
    | (_, []) => none
  | cs => do
    let (digits, rest) ← takeHexDigits? flags count cs
    let c ← hexChar? digits
    if flags.ofAscii && count == 2 && 0x80 ≤ c.toNat then none else some (c, rest)

/-! ### Conditions on words -/

def wordCondition? : String → Option WordCondition
  | "start" => some .start
  | "end" => some .finish
  | "start-half" => some .startHalf
  | "end-half" => some .finishHalf
  | _ => none

def isConditionChar (c : Char) : Bool := c.isAlpha || c == '-'

/-- A word boundary, or the condition that a name in braces behind it makes of it. Braces with a
count repeat the boundary. -/
def takeBoundary? (flags : Flags) : List Char → Option (WordCondition × List Char)
  | '\x7b' :: rest =>
    match flags.takeRun isConditionChar false rest with
    | ([], []) => none
    | ([], _) => some (.boundary, '\x7b' :: rest)
    | (name, '\x7d' :: behind) => (wordCondition? (String.ofList name)).map (·, behind)
    | _ => none
  | cs => some (.boundary, cs)

/-! ### Classes -/

def takeProperty? (flags : Flags) (negated : Bool) (cs : List Char) :
    Option (CharSet × List Char) := do
  let ((excluded, set), rest) ← match flags.skip cs with
    | '\x7b' :: rest =>
      match flags.takeRun (· != '\x7d') false rest with
      | (name, _ :: behind) => (CharSet.ofName? name).map (·, behind)
      | (_, []) => none
    | '\\' :: _ => none
    | c :: rest => (CharSet.ofName? [c]).map (·, rest)
    | [] => none
  if flags.ofAscii then none else return (← flags.closed? (negated != excluded) set, rest)

def takeEscape? (flags : Flags) : List Char → Option (Atom × List Char)
  | [] => none
  | 'd' :: rest => some (.set flags.digit, rest)
  | 's' :: rest => some (.set flags.blank, rest)
  | 'w' :: rest => some (.set flags.word, rest)
  | 'D' :: rest => if flags.ofAscii then none else some (.set (.compl .digit), rest)
  | 'S' :: rest => if flags.ofAscii then none else some (.set (.compl .blank), rest)
  | 'W' :: rest => if flags.ofAscii then none else some (.set (.compl .word), rest)
  | 'p' :: rest => (takeProperty? flags false rest).map fun (set, rest) => (.set set, rest)
  | 'P' :: rest => (takeProperty? flags true rest).map fun (set, rest) => (.set set, rest)
  | 'a' :: rest => some (.char '\x07', rest)
  | 'f' :: rest => some (.char '\x0c', rest)
  | 't' :: rest => some (.char '\t', rest)
  | 'n' :: rest => some (.char '\n', rest)
  | 'r' :: rest => some (.char '\r', rest)
  | 'v' :: rest => some (.char '\x0b', rest)
  | 'A' :: rest => some (.condition .textStart, rest)
  | 'z' :: rest => some (.condition .textEnd, rest)
  | 'b' :: rest => (takeBoundary? flags rest).map fun (condition, rest) =>
    (.condition (.word flags.ofAscii condition), rest)
  | 'B' :: rest => some (.condition (.word flags.ofAscii .notBoundary), rest)
  | '<' :: rest => some (.condition (.word flags.ofAscii .start), rest)
  | '>' :: rest => some (.condition (.word flags.ofAscii .finish), rest)
  | 'x' :: rest => (takeHex? flags 2 rest).map fun (c, rest) => (.char c, rest)
  | 'u' :: rest => (takeHex? flags 4 rest).map fun (c, rest) => (.char c, rest)
  | 'U' :: rest => (takeHex? flags 8 rest).map fun (c, rest) => (.char c, rest)
  | c :: rest => if isEscapable c then some (.char c, rest) else none

end RoutingPolicy.Regex

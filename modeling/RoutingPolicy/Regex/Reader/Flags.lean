import RoutingPolicy.Regex.Basic
import RoutingPolicy.Text.Blank

/-!
# Flags of patterns

Flags say what the letters in a pattern mean. In a verbose pattern blanks stand for nothing, nor
does what follows a `#` on its line. Where Unicode is switched off, classes, boundaries and case are
those of ASCII, and what would then match a part of a character is refused: the point, every class
that is negated or holds other characters, and a byte that is no character.
-/

set_option autoImplicit false

namespace RoutingPolicy.Regex

structure Flags where
  /-- Case is disregarded. -/
  ignoreCase : Bool
  multiLine : Bool
  pointMatchesAll : Bool
  /-- Repetitions with a mark are the greedy ones, and those without are not. -/
  exchangesGreed : Bool
  /-- A carriage return ends a line as well. -/
  returnsEndLines : Bool
  ofAscii : Bool
  verbose : Bool
  deriving DecidableEq

namespace Flags

def none : Flags := ⟨false, false, false, false, false, false, false⟩

def set? (flags : Flags) (on : Bool) : Char → Option Flags
  | 'i' => some { flags with ignoreCase := on }
  | 'm' => some { flags with multiLine := on }
  | 's' => some { flags with pointMatchesAll := on }
  | 'U' => some { flags with exchangesGreed := on }
  | 'R' => some { flags with returnsEndLines := on }
  | 'u' => some { flags with ofAscii := !on }
  | 'x' => some { flags with verbose := on }
  | _ => Option.none

end Flags

/-- The flags that letters at the front set, with a minus sign before those that are cleared, and
what follows them. No letter may occur twice, and the sign only once and before a letter. -/
def takeFlags? (flags : Flags) (on : Bool) (seen : List Char) :
    List Char → Option (Flags × List Char)
  | [] => none
  | ':' :: rest => if seen.head? = some '-' then none else some (flags, ':' :: rest)
  | ')' :: rest => if seen.head? = some '-' then none else some (flags, ')' :: rest)
  | c :: rest =>
    if seen.contains c then none
    else if c = '-' then takeFlags? flags false ('-' :: seen) rest
    else (flags.set? on c).bind fun flags => takeFlags? flags on (c :: seen) rest

/-! ### Blanks and comments -/

def skipFrom (inComment : Bool) : List Char → List Char
  | [] => []
  | c :: rest =>
    if inComment then skipFrom (c != '\n') rest
    else if c = '#' then skipFrom true rest
    else if Text.isBlank c then skipFrom false rest
    else c :: rest

namespace Flags

def skip (flags : Flags) (cs : List Char) : List Char :=
  if flags.verbose then skipFrom false cs else cs

/-- The characters of a kind up to the first of another, and what follows. Blanks and comments
between them are skipped in a verbose pattern. -/
def takeRun (flags : Flags) (kind : Char → Bool) (inComment : Bool) :
    List Char → List Char × List Char
  | [] => ([], [])
  | c :: rest =>
    if inComment then takeRun flags kind (c != '\n') rest
    else if flags.verbose && c == '#' then takeRun flags kind true rest
    else if flags.verbose && Text.isBlank c then takeRun flags kind false rest
    else if kind c then
      let (run, rest) := takeRun flags kind false rest
      (c :: run, rest)
    else ([], c :: rest)

/-! ### Sets of characters -/

def folded (flags : Flags) (set : CharSet) : CharSet :=
  if flags.ignoreCase then
    if flags.ofAscii then set.union ((set.inter .ascii).folded.inter .ascii) else set.folded
  else set

/-- The set of a class, with case disregarded before it is negated. -/
def closed? (flags : Flags) (negated : Bool) (set : CharSet) : Option CharSet :=
  if flags.ofAscii && negated then Option.none else some ((flags.folded set).negatedIf negated)

def digit (flags : Flags) : CharSet := if flags.ofAscii then .ofRanges [('0', '9')] else .digit

def blank (flags : Flags) : CharSet :=
  if flags.ofAscii then .ofRanges [('\t', '\r'), (' ', ' ')] else .blank

def word (flags : Flags) : CharSet :=
  if flags.ofAscii then .ofRanges [('0', '9'), ('A', 'Z'), ('_', '_'), ('a', 'z')] else .word

end Flags

end RoutingPolicy.Regex

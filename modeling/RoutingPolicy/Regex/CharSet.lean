import RoutingPolicy.Text.Blank
import RoutingPolicy.Text.CaseOrbit
import RoutingPolicy.Text.Digit
import RoutingPolicy.Text.WordChar

/-!
# Sets of characters in patterns

A bracket expression or a class escape in a pattern denotes a set of characters. The classes are
those of Unicode; the bracketed names, as in `[:alpha:]`, denote ASCII characters only.
-/

set_option autoImplicit false

namespace RoutingPolicy

inductive CharSet where
  | empty
  | range (first last : Char)
  | listed (table : Text.CharTable)
  | digit
  | blank
  | word
  | union (a b : CharSet)
  | inter (a b : CharSet)
  | minus (a b : CharSet)
  | symmDiff (a b : CharSet)
  | compl (a : CharSet)
  /-- The characters that differ at most in case from one in the set. -/
  | folded (a : CharSet)
  deriving DecidableEq

namespace CharSet

def contains : CharSet → Char → Bool
  | empty, _ => false
  | range first last, c => first ≤ c && c ≤ last
  | listed table, c => table.contains c
  | digit, c => Text.isDecimalDigit c
  | blank, c => Text.isBlank c
  | word, c => Text.isWordChar c
  | union a b, c => a.contains c || b.contains c
  | inter a b, c => a.contains c && b.contains c
  | minus a b, c => a.contains c && !b.contains c
  | symmDiff a b, c => a.contains c != b.contains c
  | compl a, c => !a.contains c
  | folded a, c => (Text.caseOrbit c).any fun d => a.contains d

def table : CharSet → Text.CharTable
  | empty => []
  | range first last => if first ≤ last then [(first.toNat, last.toNat)] else []
  | listed table => .normal table
  | digit => Text.CharTable.normal Text.digitTable
  | blank => Text.CharTable.normal Text.blankTable
  | word => Text.CharTable.normal Text.wordTable
  | union a b => a.table.union b.table
  | inter a b => a.table.inter b.table
  | minus a b => a.table.inter b.table.compl
  | symmDiff a b => (a.table.union b.table).inter (a.table.inter b.table).compl
  | compl a => a.table.compl
  | folded a => a.table.folded

def single (c : Char) : CharSet := range c c

def all : CharSet := compl empty

def ascii : CharSet := range '\x00' '\x7f'

def ofRanges (ranges : List (Char × Char)) : CharSet :=
  ranges.foldl (fun set r => set.union (range r.1 r.2)) empty

def negatedIf (negated : Bool) (set : CharSet) : CharSet := if negated then set.compl else set

def named? : String → Option CharSet
  | "alnum" => some (ofRanges [('0', '9'), ('A', 'Z'), ('a', 'z')])
  | "alpha" => some (ofRanges [('A', 'Z'), ('a', 'z')])
  | "ascii" => some ascii
  | "blank" => some (ofRanges [('\t', '\t'), (' ', ' ')])
  | "cntrl" => some (ofRanges [('\x00', '\x1f'), ('\x7f', '\x7f')])
  | "digit" => some (ofRanges [('0', '9')])
  | "graph" => some (ofRanges [('!', '~')])
  | "lower" => some (ofRanges [('a', 'z')])
  | "print" => some (ofRanges [(' ', '~')])
  | "punct" => some (ofRanges [('!', '/'), (':', '@'), ('[', '\x60'), ('\x7b', '~')])
  | "space" => some (ofRanges [('\t', '\r'), (' ', ' ')])
  | "upper" => some (ofRanges [('A', 'Z')])
  | "word" => some (ofRanges [('0', '9'), ('A', 'Z'), ('_', '_'), ('a', 'z')])
  | "xdigit" => some (ofRanges [('0', '9'), ('A', 'F'), ('a', 'f')])
  | _ => none

@[simp] theorem contains_single (c d : Char) : (single c).contains d = (c == d) := by
  rw [Bool.eq_iff_iff]
  simp only [single, contains, Bool.and_eq_true, decide_eq_true_eq, beq_iff_eq]
  exact ⟨fun h => Char.le_antisymm h.1 h.2, fun h => h ▸ ⟨Char.le_refl _, Char.le_refl _⟩⟩

end CharSet

end RoutingPolicy

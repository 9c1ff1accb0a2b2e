import RoutingPolicy.Proofs.Regex.Spans
import RoutingPolicy.Regex.Reader

/-!
# Patterns that stand for themselves

A pattern in which no character has a meaning of its own is read as its characters one after the
other. It matches the texts in which it stands in one piece, and no other.
-/

namespace RoutingPolicy

set_option autoImplicit false

namespace Regex

def operators : List Char := [')', '|', '(', '[', '?', '*', '+', '\x7b', '\\', '.', '^', '$']

def isLiteral (c : Char) : Bool := !operators.contains c

def literal (cs : List Char) : Regex := sequence (cs.map fun c => .one (.single c))

/-! ### Reading -/

theorem Flags.skip_of_terse {flags : Flags} (terse : flags.verbose = false) (cs : List Char) :
    flags.skip cs = cs := by
  simp [skip, terse]

theorem takeGroup?_cons {fuel : Nat} {p : Progress} {c : Char} {rest : List Char}
    (terse : p.flags.verbose = false) (plain : isLiteral c = true) :
    takeGroup? (fuel + 1) p (c :: rest) = takeGroup? fuel (p.pushFlat (p.flags.char c)) rest := by
  simp only [isLiteral, operators, List.contains_eq_mem, List.mem_cons, List.not_mem_nil, or_false,
    Bool.not_eq_true', decide_eq_false_iff_not, not_or] at plain
  rw [takeGroup?, Flags.skip_of_terse terse]
  split <;> simp_all

def Progress.pushAll (p : Progress) (cs : List Char) : Progress :=
  cs.foldl (fun p c => p.pushFlat (p.flags.char c)) p

theorem takeGroup?_literal {cs : List Char} (plain : ∀ c ∈ cs, isLiteral c = true) {fuel : Nat}
    (enough : cs.length < fuel) {p : Progress} (terse : p.flags.verbose = false) :
    takeGroup? fuel p cs = some ((p.pushAll cs).finish, (p.pushAll cs).names, []) := by
  induction cs generalizing fuel p with
  | nil =>
      obtain ⟨fuel, rfl⟩ := Nat.exists_eq_add_one_of_ne_zero (Nat.ne_of_gt enough)
      simp [takeGroup?, Flags.skip_of_terse terse, Progress.pushAll]
  | cons c rest induction =>
      obtain ⟨fuel, rfl⟩ := Nat.exists_eq_add_one_of_ne_zero (Nat.ne_zero_of_lt enough)
      rw [takeGroup?_cons terse (plain c List.mem_cons_self)]
      refine induction (fun d member => plain d (List.mem_cons_of_mem _ member)) ?_ terse
      simpa using enough

theorem Progress.pushAll_eq (p : Progress) (cs : List Char) :
    (p.pushAll cs).branches = p.branches ∧
      (p.pushAll cs).parts = (cs.map fun c => ⟨p.flags.char c, 0⟩).reverse ++ p.parts := by
  induction cs generalizing p with
  | nil => exact ⟨rfl, rfl⟩
  | cons c rest induction =>
      obtain ⟨branches, parts⟩ := induction (p.pushFlat (p.flags.char c))
      refine ⟨branches, parts.trans ?_⟩
      simp [pushFlat, push]

theorem parse?_literal {pattern : String} (plain : ∀ c ∈ pattern.toList, isLiteral c = true) :
    (parse? pattern).map (·.value) = some (literal pattern.toList) := by
  obtain ⟨branches, parts⟩ := (Progress.start .none []).pushAll_eq pattern.toList
  have single : ∀ c, (Progress.start .none []).flags.char c = .one (.single c) := fun c => rfl
  simp only [single] at parts
  rw [parse?, takeGroup?_literal plain (Nat.lt_succ_self _) rfl, Option.map_some, Progress.finish,
    Progress.branch, branches, parts]
  simp [Progress.start, choice, literal, Function.comp_def]

theorem parse?_of_read? {pattern : String} {r : Regex} (readable : read? pattern = some r) :
    (parse? pattern).map (·.value) = some r := by
  rw [read?, read] at readable
  cases parsed : parse? pattern with
  | none =>
      rw [parsed] at readable
      cases readable
  | some whole =>
      rw [parsed] at readable
      dsimp only at readable
      split_ifs at readable
      · exact readable
      · cases readable
      · cases readable

/-- A literal pattern is read as its characters, if its size is allowed. -/
theorem eq_literal_of_read? {pattern : String} {r : Regex} (readable : read? pattern = some r)
    (plain : ∀ c ∈ pattern.toList, isLiteral c = true) : r = literal pattern.toList := by
  have same := (parse?_of_read? readable).symm.trans (parse?_literal plain)
  exact Option.some.inj same

/-! ### Matching -/

theorem spans_sequence_cons_iff {text : List Char} {r : Regex} {rest : List Regex} {i k : Nat} :
    Spans text (sequence (r :: rest)) i k ↔
      ∃ j, Spans text r i j ∧ Spans text (sequence rest) j k := by
  cases rest with
  | nil => simp [sequence, Spans]
  | cons second rest => rfl

theorem spans_literal_iff {cs text : List Char} {i k : Nat} :
    Spans text (literal cs) i k ↔ k = i + cs.length ∧ cs <+: text.drop i := by
  induction cs generalizing i with
  | nil => simp [literal, sequence, Spans, eq_comm]
  | cons c rest induction =>
      rw [literal, List.map_cons, spans_sequence_cons_iff, ← literal]
      simp only [induction]
      constructor
      · rintro ⟨_, ⟨rfl, d, read, same⟩, rfl, front⟩
        obtain rfl : c = d := by simpa using same
        refine ⟨by simp only [List.length_cons]; omega, ?_⟩
        rw [List.drop_eq_getElem?_toList_append, read]
        exact (List.prefix_cons_inj c).2 front
      · rintro ⟨rfl, behind, text'⟩
        have read : text[i]? = some c := by
          rw [← List.head?_drop, ← text']
          rfl
        have rest' : rest <+: text.drop (i + 1) := by
          rw [← List.tail_drop, ← text']
          exact List.prefix_append _ _
        exact ⟨i + 1, ⟨rfl, c, read, by simp⟩, by simp only [List.length_cons]; omega, rest'⟩

/-- A literal pattern matches the texts in which it stands in one piece. -/
theorem isMatch_literal_iff {cs : List Char} {s : String} :
    (literal cs).isMatch s = true ↔ cs <:+: s.toList := by
  rw [isMatch_iff]
  simp only [spans_literal_iff]
  constructor
  · rintro ⟨i, -, k, -, front⟩
    exact front.isInfix.trans (List.drop_suffix i s.toList).isInfix
  · rintro ⟨before, behind, text⟩
    refine ⟨before.length, ?_, _, rfl, ?_⟩
    · rw [← text]
      simp
    · rw [← text, List.append_assoc, List.drop_left]
      exact List.prefix_append _ _

end Regex

end RoutingPolicy

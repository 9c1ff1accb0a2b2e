import RoutingPolicy.Proofs.Regex.Spans
import RoutingPolicy.Regex.Reader
import RoutingPolicy.Site.Name

/-!
# The pattern of site names

The form of a site name can also be said by a pattern. What the pattern denotes matches the names of
sites and nothing else.
-/

namespace RoutingPolicy

set_option autoImplicit false

namespace Regex

variable {text : List Char} {set : CharSet} {i k n : Nat}

theorem spans_one_iff : Spans text (one set) i k ↔
    ∃ c, set.contains c = true ∧ k = i + 1 ∧ text.drop i = c :: text.drop k := by
  constructor
  · rintro ⟨rfl, c, read, held⟩
    refine ⟨c, held, rfl, ?_⟩
    rw [List.drop_eq_getElem?_toList_append, read]
    rfl
  · rintro ⟨c, held, rfl, read⟩
    refine ⟨rfl, c, ?_, held⟩
    rw [← List.head?_drop, read]
    rfl

theorem chain_one_iff : Chain (Spans text (one set)) n i k ↔
    ∃ front, front.length = n ∧ front.all set.contains = true ∧ k = i + n ∧
      text.drop i = front ++ text.drop k := by
  induction n generalizing i with
  | zero =>
      simp only [Chain, List.length_eq_zero_iff]
      constructor
      · rintro rfl
        exact ⟨[], rfl, rfl, rfl, rfl⟩
      · rintro ⟨_, -, -, rfl, -⟩
        rfl
  | succ n induction =>
      simp only [Chain, induction, spans_one_iff]
      constructor
      · rintro ⟨_, ⟨c, held, rfl, first⟩, front, length, all, rfl, rest⟩
        refine ⟨c :: front, by simp [length], by simp [held, all], by omega, ?_⟩
        rw [first, rest, List.cons_append]
      · rintro ⟨front, length, all, rfl, read⟩
        obtain ⟨c, front, rfl⟩ := List.exists_cons_of_length_eq_add_one length
        rw [List.all_cons, Bool.and_eq_true] at all
        have rest : text.drop (i + 1) = front ++ text.drop (i + (n + 1)) := by
          rw [← List.tail_drop, read, List.cons_append, List.tail_cons]
        refine ⟨i + 1, ⟨c, all.1, rfl, ?_⟩, front, by simpa using length, all.2, by omega, rest⟩
        rw [read, rest, List.cons_append]

end Regex

namespace SiteName

open Regex

def pattern : String := "^(T\\d)_([A-Z]\x7b2\x7d)_([A-Z][A-Za-z_]+)$"

def capitals : CharSet := .union .empty (.range 'A' 'Z')

def nameChars : CharSet := (capitals.union (.range 'a' 'z')).union (.single '_')

def expression : Regex :=
  sequence [look .textStart, group true (sequence [one (.single 'T'), one .digit]),
    one (.single '_'), group true (repeated true 2 (some 2) (one capitals)), one (.single '_'),
    group true (sequence [one capitals, repeated true 1 none (one nameChars)]), look .textEnd]

theorem parse?_pattern : (parse? pattern).map (·.value) = some expression := by decide

theorem contains_capitals (c : Char) : capitals.contains c = isCapital c := rfl

theorem contains_nameChars (c : Char) : nameChars.contains c = isNameChar c := by
  simp only [nameChars, CharSet.contains, contains_capitals, CharSet.contains_single, isNameChar]
  rw [Bool.beq_comm]

variable {text : List Char} {i k : Nat}

theorem hasSiteForm_of_spans (within : i ≤ text.length) (spans : Spans text expression i k) :
    hasSiteForm text = true := by
  obtain ⟨_, ⟨rfl, start⟩, _, ⟨_, t, d⟩, _, u, _, ⟨extra, atMost, country⟩, _, u', last,
    ⟨_, first, more, -, name⟩, -, finish⟩ := spans
  obtain rfl : i = 0 := by
    cases i with
    | zero => rfl
    | succ i => simp [Look.holds, before?, Nat.not_le.2 (Nat.lt_of_succ_le within)] at start
  obtain ⟨T, isT, -, text0⟩ := spans_one_iff.1 t
  obtain ⟨tier, digit, -, text1⟩ := spans_one_iff.1 d
  obtain ⟨mark, isMark, -, text2⟩ := spans_one_iff.1 u
  obtain ⟨letters, two, capital, -, text3⟩ := chain_one_iff.1 country
  obtain ⟨mark', isMark', -, text4⟩ := spans_one_iff.1 u'
  obtain ⟨letter, capital', -, text5⟩ := spans_one_iff.1 first
  obtain ⟨rest, filled, all, -, text6⟩ := chain_one_iff.1 name
  have atEnd : text.drop last = [] := by
    simpa [Look.holds, Option.isNone_iff_eq_none] using finish
  have none : extra = 0 := Nat.le_zero.1 (atMost 2 rfl)
  obtain ⟨c, c', rfl⟩ : ∃ c c', letters = [c, c'] := List.length_eq_two.1 (by rw [two, none])
  rw [CharSet.contains_single, beq_iff_eq] at isT isMark isMark'
  rw [List.drop_zero, text1, text2, text3, text4, text5, text6, atEnd, ← isT, ← isMark,
    ← isMark'] at text0
  have ne_nil : rest ≠ [] := List.ne_nil_of_length_pos (by omega)
  have letters : ∀ d ∈ rest, isNameChar d = true := by
    simpa [contains_nameChars] using all
  have capitals : isCapital c = true ∧ isCapital c' = true := by
    simpa [contains_capitals] using capital
  rw [contains_capitals] at capital'
  have digit : Text.isDecimalDigit tier = true := digit
  rw [text0]
  simpa [hasSiteForm, digit, capitals, capital', ne_nil] using letters

theorem IsSpelled.spans {site : SiteName} {tier c c' letter : Char} {rest : List Char}
    (spelled : site.IsSpelled tier c c' letter rest) :
    Spans site.text.toList expression 0 site.text.toList.length := by
  have more : 1 + (rest.length - 1) = rest.length := by
    have := List.length_pos_iff.2 spelled.rest_ne_nil
    omega
  have country : [c, c'].all capitals.contains = true := by
    simp [contains_capitals, spelled.country, spelled.country']
  have name : rest.all nameChars.contains = true := by
    simpa [contains_nameChars] using spelled.rest
  rw [spelled.characters]
  have whole :
      7 + rest.length = ('T' :: tier :: '_' :: c :: c' :: '_' :: letter :: rest).length := by
    simp only [List.length_cons]
    omega
  refine ⟨0, ⟨rfl, rfl⟩, 2, ⟨1, ?_, ?_⟩, 3, ?_, 5, ⟨0, fun _ _ => Nat.zero_le _, ?_⟩, 6, ?_,
    7 + rest.length, ⟨7, ?_, rest.length - 1, nofun, ?_⟩, whole, ?_⟩
  · exact spans_one_iff.2 ⟨_, rfl, rfl, rfl⟩
  · exact spans_one_iff.2 ⟨_, spelled.digit, rfl, rfl⟩
  · exact spans_one_iff.2 ⟨_, rfl, rfl, rfl⟩
  · exact chain_one_iff.2 ⟨_, rfl, country, rfl, rfl⟩
  · exact spans_one_iff.2 ⟨_, rfl, rfl, rfl⟩
  · exact spans_one_iff.2 ⟨_, spelled.first, rfl, rfl⟩
  · exact chain_one_iff.2 ⟨_, more.symm, name, by rw [more], by rw [whole]; simp⟩
  · rw [whole]
    simp [Look.holds]

/-- The pattern matches the texts with the form of a site name. -/
theorem isMatch_expression_iff {s : String} :
    expression.isMatch s = true ↔ hasSiteForm s.toList = true := by
  rw [isMatch_iff]
  constructor
  · rintro ⟨i, within, k, spans⟩
    exact hasSiteForm_of_spans within spans
  · intro form
    obtain ⟨_, _, _, _, _, spelled⟩ := exists_isSpelled ⟨s, form⟩
    exact ⟨0, Nat.zero_le _, _, spelled.spans⟩

/-- The names of sites are the texts that match what the pattern denotes. -/
theorem isValid_eq_isMatch (s : String) :
    (parse? pattern).map (·.value.isMatch s) = some (isValid s) := by
  have denoted := congrArg (Option.map (·.isMatch s)) parse?_pattern
  rw [Option.map_map] at denoted
  rw [isValid, ← Bool.eq_iff_iff.2 isMatch_expression_iff]
  exact denoted

end SiteName

end RoutingPolicy

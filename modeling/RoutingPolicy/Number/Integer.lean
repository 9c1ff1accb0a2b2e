/-!
# Integers of 64 bits

Integers are signed and have 64 bits. An operation whose exact result does not fit has no result:
`ofInt?_eq_some_iff` says that a result, where there is one, is the exact one. The written form is
decimal; the reader takes an optional sign and at least one ASCII digit. `read?_text` says that it
reads back what is written.
-/

set_option autoImplicit false

namespace RoutingPolicy.Integer

/-- The 64-bit integer with an exact value, if the value fits. -/
def ofInt? (i : Int) : Option Int64 :=
  if Int64.minValue.toInt ≤ i ∧ i ≤ Int64.maxValue.toInt then some (Int64.ofInt i) else none

theorem ofInt?_eq_some_iff {i : Int} {x : Int64} : ofInt? i = some x ↔ x.toInt = i := by
  have hleast := Int64.toInt_minValue
  have hgreatest := Int64.toInt_maxValue
  unfold ofInt?
  split
  · next h =>
    constructor
    · rintro ⟨⟩
      exact Int64.toInt_ofInt_of_le (by omega) (by omega)
    · intro hx
      rw [← hx, Int64.ofInt_toInt]
  · next h =>
    have := x.le_toInt
    have := x.toInt_lt
    constructor
    · intro hx; cases hx
    · intro hx; omega

def add? (a b : Int64) : Option Int64 := ofInt? (a.toInt + b.toInt)

def sub? (a b : Int64) : Option Int64 := ofInt? (a.toInt - b.toInt)

def mul? (a b : Int64) : Option Int64 := ofInt? (a.toInt * b.toInt)

/-- The quotient cut off toward zero, if the divisor is not zero and the quotient fits. -/
def div? (a b : Int64) : Option Int64 :=
  if b = 0 then none else ofInt? (a.toInt.tdiv b.toInt)

def neg? (a : Int64) : Option Int64 := ofInt? (-a.toInt)

/-! ### Decimal text -/

def natText (n : Nat) : String := String.ofList (Nat.toDigits 10 n)

def intText : Int → String
  | .ofNat n => natText n
  | .negSucc n => "-" ++ natText (n + 1)

def text (i : Int64) : String := intText i.toInt

def readDigits? (cs : List Char) : Option Nat :=
  if !cs.isEmpty && cs.all Char.isDigit then some (Nat.ofDigitChars 10 cs 0) else none

theorem readDigits?_toDigits (n : Nat) : readDigits? (Nat.toDigits 10 n) = some n := by
  have hall : (Nat.toDigits 10 n).all Char.isDigit = true :=
    List.all_eq_true.2 fun c hc => Nat.isDigit_of_mem_toDigits (by decide) (by decide) hc
  have hne : Nat.toDigits 10 n ≠ [] := Nat.toDigits_ne_nil
  simp [readDigits?, hall, hne, Nat.ofDigitChars_ten_toDigits]

def splitSign : List Char → Bool × List Char
  | '-' :: rest => (true, rest)
  | '+' :: rest => (false, rest)
  | cs => (false, cs)

theorem splitSign_toDigits (n : Nat) :
    splitSign (Nat.toDigits 10 n) = (false, Nat.toDigits 10 n) := by
  have hdigit : ∀ c ∈ Nat.toDigits 10 n, c.isDigit = true :=
    fun c hc => Nat.isDigit_of_mem_toDigits (by decide) (by decide) hc
  unfold splitSign
  split
  · next h => rw [h] at hdigit; exact absurd (hdigit '-' (by simp)) (by decide)
  · next h => rw [h] at hdigit; exact absurd (hdigit '+' (by simp)) (by decide)
  · rfl

theorem splitSign_intText (i : Int) :
    splitSign (intText i).toList = (decide (i < 0), Nat.toDigits 10 i.natAbs) := by
  cases i with
  | ofNat n => simp [intText, natText, splitSign_toDigits]
  | negSucc n => simp [intText, natText, splitSign, Int.negSucc_lt_zero]

/-- Reads a 64-bit integer: an optional sign, then digits only. -/
def read? (s : String) : Option Int64 :=
  let (negative, digits) := splitSign s.toList
  (readDigits? digits).bind fun n => ofInt? (if negative then -(n : Int) else n)

theorem read?_intText (i : Int) : read? (intText i) = ofInt? i := by
  have hread : ∀ s, read? s = (readDigits? (splitSign s.toList).2).bind fun n =>
      ofInt? (if (splitSign s.toList).1 then -(n : Int) else n) := fun s => rfl
  have hvalue : (if decide (i < 0) = true then -(i.natAbs : Int) else i.natAbs) = i := by
    by_cases h : i < 0
    · rw [if_pos (decide_eq_true h)]; omega
    · rw [if_neg (by rw [decide_eq_true_iff]; exact h)]; omega
  rw [hread, splitSign_intText, readDigits?_toDigits, Option.bind_some, hvalue]

theorem read?_text (i : Int64) : read? (text i) = some i := by
  rw [text, read?_intText, ofInt?_eq_some_iff]

/-- Reads a natural number below `2 ^ 64`: an optional plus sign, then digits only. -/
def readNat? (s : String) : Option Nat :=
  let digits := match s.toList with
    | '+' :: rest => rest
    | cs => cs
  (readDigits? digits).filter (· < UInt64.size)

end RoutingPolicy.Integer

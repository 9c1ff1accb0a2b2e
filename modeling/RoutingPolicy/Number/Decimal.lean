import RoutingPolicy.Number.Binary64
import RoutingPolicy.Number.Integer

/-!
# Decimal notation of double precision numbers

A `Decimal` is an integer times a power of ten. Reading rounds it to the nearest double precision
number; writing looks for the fewest digits that read back, and among those for the nearest. The
choice between two equally near ones and the layout are the caller's: `positional` never writes an
exponent, `scientific` always does.
-/

set_option autoImplicit false

namespace RoutingPolicy

/-- The number `digits * 10 ^ exponent`. -/
structure Decimal where
  digits : Nat
  /-- The power of ten that the last digit counts. -/
  exponent : Int
  deriving DecidableEq

namespace Decimal

def digitChars (d : Decimal) : List Char := Nat.toDigits 10 d.digits

/-- The power of ten that the first digit counts. -/
def leadingExponent (d : Decimal) : Int := d.exponent + d.digitChars.length - 1

/-- The nearest double precision number. A first digit beyond `10 ^ 310` or below `10 ^ -330`
settles the result without computing the power. -/
def toBinary64 (negative : Bool) (d : Decimal) : Binary64 :=
  if d.digits = 0 then .zero negative
  else if 310 < d.leadingExponent then .infinite negative
  else if d.leadingExponent < -330 then .zero negative
  else if 0 ≤ d.exponent then .nearest negative (d.digits * Nat.pow 10 d.exponent.toNat) 1
  else .nearest negative d.digits (Nat.pow 10 (-d.exponent).toNat)

/-! ### Reading -/

def readExponent? (cs : List Char) : Option Int :=
  let (negative, digits) := Integer.splitSign cs
  (Integer.readDigits? digits).map fun n => if negative then -(n : Int) else n

def isExponentMark (c : Char) : Bool := c == 'e' || c == 'E'

/-- Reads digits, perhaps with a point among, before or behind them, and perhaps an exponent. There
is at least one digit beside the point. -/
def read? (cs : List Char) : Option Decimal :=
  let mantissa := cs.takeWhile fun c => !isExponentMark c
  let exponent? := match cs.dropWhile fun c => !isExponentMark c with
    | [] => some 0
    | _ :: written => readExponent? written
  let whole := mantissa.takeWhile (· != '.')
  let fraction? := match mantissa.dropWhile (· != '.') with
    | [] => some []
    | _ :: fraction => if fraction.all Char.isDigit then some fraction else none
  match exponent?, fraction? with
  | some exponent, some fraction =>
    (Integer.readDigits? (whole ++ fraction)).map fun digits =>
      ⟨digits, exponent - fraction.length⟩
  | _, _ => none

/-! ### The fewest digits -/

def stripZeros : Nat → Decimal → Decimal
  | 0, d => d
  | fuel + 1, d =>
    if d.digits ≠ 0 ∧ d.digits % 10 = 0 then stripZeros fuel ⟨d.digits / 10, d.exponent + 1⟩
    else d

def firstExponent (num den : Nat) : Int :=
  if den ≤ num then ((Nat.toDigits 10 (num / den)).length : Int) - 1
  else -(Nat.toDigits 10 ((den - 1) / num)).length

/-- The part of `num / den` above its multiple of `10 ^ exponent`: quotient, remainder and the
divisor that the remainder is to be compared with. -/
def onGrid (num den : Nat) (exponent : Int) : Nat × Nat × Nat :=
  let n := if 0 ≤ exponent then num else num * Nat.pow 10 (-exponent).toNat
  let d := if 0 ≤ exponent then den * Nat.pow 10 exponent.toNat else den
  (n / d, n % d, d)

/-- Which of two equally near neighbours is taken. -/
inductive Tie where
  | upward
  | toEven
  deriving DecidableEq

def Tie.isDown (tie : Tie) (rest divisor : Nat) (even : Bool) : Bool :=
  match compare (2 * rest) divisor, tie with
  | .lt, _ => true
  | .gt, _ => false
  | .eq, upward => false
  | .eq, toEven => even

/-- The decimal of `count` digits nearest to `m` among those that read back as `m`. -/
def withDigits? (tie : Tie) (m : Magnitude) (count : Nat) : Option Decimal :=
  let exponent := firstExponent m.units Magnitude.unitsPerOne - count + 1
  let (below, rest, divisor) := onGrid m.units Magnitude.unitsPerOne exponent
  let ordered :=
    if tie.isDown rest divisor (below % 2 == 0) then [below, below + 1] else [below + 1, below]
  (ordered.map fun digits => (⟨digits, exponent⟩ : Decimal)).find? fun d =>
    d.toBinary64 false == .finite false m

def exact (m : Magnitude) : Decimal := ⟨m.units * Nat.pow 5 1074, -1074⟩

/-- The decimal with the fewest digits that reads back as `m`, the nearest of them. -/
def shortest (tie : Tie) (m : Magnitude) : Decimal :=
  let found := (List.range 17).findSome? fun i => withDigits? tie m (i + 1)
  stripZeros 1100 (found.getD (exact m))

/-! ### Layouts -/

/-- Digits around a decimal point; a whole number ends in `.0`. -/
def positional (d : Decimal) : String :=
  let digits := d.digitChars
  let point := d.leadingExponent + 1
  String.ofList <|
    if point ≤ 0 then '0' :: '.' :: (List.replicate (-point).toNat '0' ++ digits)
    else if digits.length ≤ point.toNat then
      digits ++ List.replicate (point.toNat - digits.length) '0' ++ ['.', '0']
    else digits.take point.toNat ++ '.' :: digits.drop point.toNat

def scientific (d : Decimal) : String :=
  let exponent := d.leadingExponent
  let digits := match d.digitChars with
    | [c] => [c]
    | c :: rest => c :: '.' :: rest
    | [] => []
  String.ofList digits ++ (if exponent < 0 then "e-" else "e+") ++
    Integer.natText exponent.natAbs

end Decimal

namespace Binary64

/-- Reads a number in decimal notation, an infinity or NaN, each with an optional sign; the letters
may be large or small. -/
def read? (s : String) : Option Binary64 :=
  let (negative, cs) := Integer.splitSign s.toList
  let word := String.ofList (cs.map Char.toLower)
  if word = "inf" ∨ word = "infinity" then some (infinite negative)
  else if word = "nan" then some nan
  else (Decimal.read? cs).map (·.toBinary64 negative)

end Binary64

end RoutingPolicy

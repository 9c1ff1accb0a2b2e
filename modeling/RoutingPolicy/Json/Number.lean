import RoutingPolicy.Json.Basic
import RoutingPolicy.Number.Decimal

/-!
# Numbers in JSON text

A number without point and exponent is an integer while 64 bits hold it. Any other number becomes a
double in two steps: as many leading digits as 64 bits hold make an integer, which is rounded, and
one multiplication or division by a power of ten, rounded again, accounts for the rest. The result
can therefore differ in its last bit from the double nearest to the written number. A number too
large for a double is refused. Written doubles have the fewest digits that the nearest double
determines, positional between `0.00001` and `10 ^ 16`.
-/

set_option autoImplicit false

namespace RoutingPolicy.JsonNumber

/-! ### Writing -/

def isPositional (d : Decimal) : Bool := -5 ≤ d.leadingExponent && d.leadingExponent < 16

def magnitudeText (m : Magnitude) : String :=
  let d := Decimal.shortest .toEven m
  if isPositional d then d.positional else d.scientific

def text : JsonNumber → String
  | integer i => Integer.intText i
  | real negative m => (if negative then "-" else "") ++ magnitudeText m

/-! ### Reading -/

def digitValue (c : Char) : Nat := c.toNat - '0'.toNat

/-- Appends digits to an integer while it stays below `2 ^ 64`, and returns what is left of them. -/
def absorb (n : Nat) : List Char → Nat × List Char
  | [] => (n, [])
  | c :: rest =>
    let next := 10 * n + digitValue c
    if next < UInt64.size then absorb next rest else (n, c :: rest)

def powerOfTen (e : Nat) : Binary64 := .nearest false (Nat.pow 10 e) 1

/-- Divides by a power of ten, by at most `10 ^ 308` at a time. -/
def scaleDown (f : Binary64) (e : Nat) : Binary64 :=
  if e ≤ 308 then f.div (powerOfTen e)
  else if f = .zero false then f
  else scaleDown (f.div (powerOfTen 308)) (e - 308)
termination_by e

/-- Multiplies by a power of ten. A factor above `10 ^ 308` leaves only zero in range. -/
def scaleUp (f : Binary64) (e : Nat) : Binary64 :=
  if e ≤ 308 then f.mul (powerOfTen e)
  else if f = .zero false then f
  else .infinite false

def scaled? (negative : Bool) (significand : Nat) (exponent : Int) : Option JsonNumber :=
  let f := Binary64.ofInt significand
  let result :=
    if 0 ≤ exponent then scaleUp f exponent.toNat else scaleDown f (-exponent).toNat
  match result with
  | .finite _ m => some (real negative m)
  | _ => none

structure Written where
  negative : Bool
  whole : List Char
  /-- The digits behind the point, if there is one. -/
  fraction : Option (List Char)
  /-- The sign and the digits of the exponent, if there is one. -/
  exponent : Option (Bool × List Char)

/-- The power of ten that an exponent adds to `base`. An exponent of `2 ^ 31` or more only leaves a
zero significand in range if positive, and nothing but zero if negative. -/
def Written.scaled? (w : Written) (significand : Nat) (base : Int) : Option JsonNumber :=
  match w.exponent with
  | none => JsonNumber.scaled? w.negative significand base
  | some (negativeExponent, digits) =>
    let e := Nat.ofDigitChars 10 digits 0
    if e ≤ Int32.maxValue.toInt then
      JsonNumber.scaled? w.negative significand (if negativeExponent then base - e else base + e)
    else if significand = 0 || negativeExponent then some (real w.negative Magnitude.zero)
    else none

def Written.number? (w : Written) : Option JsonNumber :=
  let (significand, beyond) := absorb 0 w.whole
  match w.fraction with
  | some fraction =>
    let (longer, dropped) := absorb significand fraction
    w.scaled? longer (beyond.length - (fraction.length - dropped.length : Nat))
  | none =>
    if w.exponent.isSome || !beyond.isEmpty then w.scaled? significand beyond.length
    else if !w.negative then some (integer significand)
    else if significand = 0 || -significand < Int64.minValue.toInt then
      JsonNumber.scaled? true significand 0
    else some (integer (-significand))

def takeDigits? (cs : List Char) : Option (List Char × List Char) :=
  let digits := cs.takeWhile Char.isDigit
  if digits.isEmpty then none else some (digits, cs.dropWhile Char.isDigit)

def takeFraction? : List Char → Option (Option (List Char) × List Char)
  | '.' :: rest => (takeDigits? rest).map fun (digits, rest) => (some digits, rest)
  | cs => some (none, cs)

def takeExponent? : List Char → Option (Option (Bool × List Char) × List Char)
  | c :: rest =>
    if Decimal.isExponentMark c then
      let (negative, digits) := Integer.splitSign rest
      (takeDigits? digits).map fun (digits, rest) => (some (negative, digits), rest)
    else some (none, c :: rest)
  | [] => some (none, [])

/-- Reads a number from the front of a text. A further digit behind a leading zero is refused. -/
def read? (cs : List Char) : Option (JsonNumber × List Char) := do
  let (negative, cs) := match cs with
    | '-' :: rest => (true, rest)
    | cs => (false, cs)
  let (whole, cs) ← takeDigits? cs
  if whole.head? = some '0' && 1 < whole.length then none
  let (fraction, cs) ← takeFraction? cs
  let (exponent, cs) ← takeExponent? cs
  let n ← Written.number? ⟨negative, whole, fraction, exponent⟩
  return (n, cs)

end RoutingPolicy.JsonNumber

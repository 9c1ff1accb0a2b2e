/-!
# Double precision numbers

A `Binary64` is a datum of the IEEE 754 format of 64 bits: a finite number with its sign (zero has
two), an infinity or the one NaN. Finite magnitudes are counted in units of `2 ^ -1074`, the least
positive one, so every operation is exact integer arithmetic followed by one rounding to the
nearest datum, ties to the even significand.
-/

set_option autoImplicit false

namespace RoutingPolicy

/-- The magnitude `significand * 2 ^ scale` units of a finite datum. The fields are determined by
the magnitude: the significand has 53 bits unless the scale is zero. -/
structure Magnitude where
  significand : Nat
  /-- The power of two that the significand is multiplied by, in units. -/
  scale : Nat
  significand_lt : significand < Nat.pow 2 53
  scale_le : scale ≤ 2045
  /-- Bits are left out only below the least scale. -/
  normal : scale = 0 ∨ Nat.pow 2 52 ≤ significand
  deriving DecidableEq

inductive Binary64 where
  /-- The result of an operation without a number for result. -/
  | nan
  | infinite (negative : Bool)
  | finite (negative : Bool) (magnitude : Magnitude)
  deriving DecidableEq

namespace Magnitude

def units (m : Magnitude) : Nat := m.significand * Nat.pow 2 m.scale

def zero : Magnitude := ⟨0, 0, by decide, by decide, .inl rfl⟩

def ofFields? (significand scale : Nat) : Option Magnitude :=
  if h : significand < Nat.pow 2 53 ∧ scale ≤ 2045 ∧ (scale = 0 ∨ Nat.pow 2 52 ≤ significand) then
    some ⟨significand, scale, h.1, h.2.1, h.2.2⟩
  else none

def unitsPerOne : Nat := Nat.pow 2 1074

end Magnitude

def divNearestEven (n d : Nat) : Nat :=
  let q := n / d
  let r := n % d
  if 2 * r < d then q
  else if d < 2 * r then q + 1
  else if q % 2 = 0 then q else q + 1

namespace Magnitude

/-- The scale of a datum of that many whole units. -/
def scaleOf (units : Nat) : Nat := if units < Nat.pow 2 53 then 0 else units.log2 - 52

/-- The magnitude with a rounded significand, which may have become one bit longer than its scale
allows. -/
def ofRounded? (significand scale : Nat) : Option Magnitude :=
  if significand < Nat.pow 2 53 then ofFields? significand scale
  else ofFields? (Nat.pow 2 52) (scale + 1)

/-- The magnitude nearest to `n / d` units, unless that lies beyond all of them. -/
def nearest? (n d : Nat) : Option Magnitude :=
  ofRounded? (divNearestEven n (d * Nat.pow 2 (scaleOf (n / d)))) (scaleOf (n / d))

end Magnitude

namespace Binary64

open Magnitude

def zero (negative : Bool) : Binary64 := finite negative Magnitude.zero

/-- The datum of a magnitude, or of one beyond all finite ones. -/
def ofMagnitude (negative : Bool) : Option Magnitude → Binary64
  | some m => finite negative m
  | none => infinite negative

/-- The datum nearest to `num / den` with the given sign; `den` is positive. -/
def nearest (negative : Bool) (num den : Nat) : Binary64 :=
  ofMagnitude negative (nearest? (num * unitsPerOne) den)

def beyondFinite : Int := Nat.pow 2 2098

/-- Where a datum lies on the line of units, the infinities beyond all finite ones. NaN has no
place. -/
def position? : Binary64 → Option Int
  | nan => none
  | infinite negative => some (if negative then -beyondFinite else beyondFinite)
  | finite negative m => some (if negative then -m.units else m.units)

/-- The order of two data; NaN is not comparable, and the two zeros are equal. -/
def order? (a b : Binary64) : Option Ordering :=
  match a.position?, b.position? with
  | some p, some q => some (compare p q)
  | _, _ => none

/-- Equality as numbers: the zeros are equal, and NaN equals nothing. -/
def equal (a b : Binary64) : Bool := order? a b == some .eq

def isNegative (a : Binary64) : Bool := order? a (zero false) == some .lt

def neg : Binary64 → Binary64
  | nan => nan
  | infinite negative => infinite !negative
  | finite negative m => finite (!negative) m

def signedUnits (negative : Bool) (m : Magnitude) : Int :=
  if negative then -m.units else m.units

/-- The rounded sum. A sum of zero is negative only if both terms are. -/
def add : Binary64 → Binary64 → Binary64
  | nan, _ => nan
  | _, nan => nan
  | infinite s, infinite t => if s = t then infinite s else nan
  | infinite s, finite .. => infinite s
  | finite .., infinite t => infinite t
  | finite s m, finite t k =>
    let sum := signedUnits s m + signedUnits t k
    if sum = 0 then zero (s && t) else nearest (sum < 0) sum.natAbs unitsPerOne

def sub (a b : Binary64) : Binary64 := add a b.neg

def mul : Binary64 → Binary64 → Binary64
  | nan, _ => nan
  | _, nan => nan
  | infinite s, infinite t => infinite (s != t)
  | infinite s, finite t m => if m.units = 0 then nan else infinite (s != t)
  | finite s m, infinite t => if m.units = 0 then nan else infinite (s != t)
  | finite s m, finite t k =>
    nearest (s != t) (m.units * k.units) (unitsPerOne * unitsPerOne)

def div : Binary64 → Binary64 → Binary64
  | nan, _ => nan
  | _, nan => nan
  | infinite _, infinite _ => nan
  | infinite s, finite t _ => infinite (s != t)
  | finite s _, infinite t => zero (s != t)
  | finite s m, finite t k =>
    if k.units = 0 then (if m.units = 0 then nan else infinite (s != t))
    else nearest (s != t) m.units k.units

def ofInt (i : Int) : Binary64 := nearest (i < 0) i.natAbs 1

def truncate? : Binary64 → Option Int
  | finite negative m =>
    let whole : Int := m.units / unitsPerOne
    some (if negative then -whole else whole)
  | _ => none

end Binary64

end RoutingPolicy

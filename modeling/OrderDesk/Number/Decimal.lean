import OrderDesk.Number.Binary
import OrderDesk.Number.Rounding

/-!
# Decimals and the doubles they name

A decimal is a sign, a whole coefficient and a power of ten. It reads as the double
nearest to it. Among the decimals that read as a given double, `ofFloat?` picks the
one with the fewest digits, and of two such the one closer to the exact value.
-/

namespace OrderDesk.Number

/-- A finite decimal: `± coefficient · 10 ^ exponent`. -/
structure Decimal where
  /-- The sign; zero has one too. -/
  negative : Bool
  /-- The digits, read as a whole number. -/
  coefficient : Nat
  /-- The power of ten that the coefficient is scaled by. -/
  exponent : Int
  deriving DecidableEq, Repr

namespace Decimal

/-- The value of a decimal as a rational number. -/
def toRat (d : Decimal) : Rat :=
  let num := Int.ofNat (d.coefficient * tenTo d.exponent.toNat)
  mkRat (if d.negative then -num else num) (tenTo (-d.exponent).toNat)

/-- The magnitude of a decimal as a double: the nearest one. Far outside the range of
doubles the power of ten is not computed. -/
def magnitudeToFloat (coefficient : Nat) (exponent : Int) : Float :=
  let high : Int := digitCount coefficient + exponent
  if coefficient == 0 then 0.0
  else if 400 < high then 1.0 / 0.0
  else if high < -400 then 0.0
  else if 0 ≤ exponent then Float.ofScientific coefficient false exponent.toNat
  else Float.ofScientific coefficient true (-exponent).toNat

/-- The double nearest to a decimal, with the decimal's sign. -/
def toFloat (d : Decimal) : Float :=
  let magnitude := magnitudeToFloat d.coefficient d.exponent
  if d.negative then -magnitude else magnitude

/-- A decimal without the zeros at the end of its coefficient. `fuel` bounds how many
are taken off. -/
def stripZeros : Nat → Nat → Int → Nat × Int
  | 0, c, e => (c, e)
  | fuel + 1, c, e => if c % 10 == 0 && c != 0 then stripZeros fuel (c / 10) (e + 1) else (c, e)

/-- The two decimals with `digits` digits around the positive value `num / den`: its
lower neighbour on that grid, and the grid's exponent. -/
def gridBelow (num den digits : Nat) : Nat × Int :=
  let exponent := scale num den - digits
  ((num * tenTo (-exponent).toNat) / (den * tenTo exponent.toNat), exponent)

/-- The decimal with `digits` digits that reads as `target` and is closest to
`num / den`; an exact tie goes to the even coefficient. -/
def withDigits? (target : Float) (num den digits : Nat) : Option (Nat × Int) :=
  let (low, exponent) := gridBelow num den digits
  let reads (c : Nat) : Bool := magnitudeToFloat c exponent == target
  match reads low, reads (low + 1) with
  | true, true =>
    let twice := 2 * num * tenTo (-exponent).toNat
    let middle := (2 * low + 1) * (den * tenTo exponent.toNat)
    if twice < middle then some (low, exponent)
    else if middle < twice then some (low + 1, exponent)
    else some (if low % 2 == 0 then low else low + 1, exponent)
  | true, false => some (low, exponent)
  | false, true => some (low + 1, exponent)
  | false, false => none

/-- The decimal with the fewest digits that reads as the positive double `target`,
whose exact value is `num / den`. Seventeen digits always suffice. -/
def shortest (target : Float) (num den : Nat) : Nat × Int :=
  match (List.range 17).findSome? fun i => withDigits? target num den (i + 1) with
  | some (c, e) => stripZeros 20 c e
  | none => gridBelow num den 17

/-- The decimal with at most `digits` digits that is closest to the positive value `num / den`;
an exact tie goes up. -/
def rounded (num den digits : Nat) : Nat × Int :=
  let (low, exponent) := gridBelow num den digits
  let twice := 2 * num * tenTo (-exponent).toNat
  let middle := (2 * low + 1) * (den * tenTo exponent.toNat)
  stripZeros digits (if twice < middle then low else low + 1) exponent

/-- The shortest decimal of a finite double; none for the infinities and for NaN. -/
def ofFloat? (x : Float) : Option Decimal :=
  (Binary.ofFloat? x).map fun b =>
    if b.significand == 0 then ⟨b.negative, 0, 0⟩
    else
      let (c, e) := shortest x.abs b.num b.den
      ⟨b.negative, c, e⟩

/-- A whole number as a decimal. -/
def ofNat (n : Nat) : Decimal := ⟨false, n, 0⟩

end Decimal

end OrderDesk.Number

import OrderDesk.Fault
import OrderDesk.Number.Decimal

/-!
# Flooring to a step

A venue trades in multiples of a step. An amount is floored to one by decimal
arithmetic on the texts of both numbers, so that a step of a tenth is a tenth: the
quotient is rounded to twenty-eight digits, floored, multiplied by the step, rounded
to twenty-eight digits again, and read as a double.
-/

namespace OrderDesk

/-- The step of a venue: a double, or a whole power of ten when the venue counts its
precision in places before the point. -/
inductive Step where
  | whole (n : Nat)
  /-- A step given as a double. -/
  | real (x : Float)
  deriving Repr

/-- A step as text: a whole one has no point. -/
def Step.text : Step → String
  | .whole n => Number.digitsText n
  | .real x => Number.text x

namespace Number

/-- The digits that decimal arithmetic keeps. -/
def workingDigits : Nat := 28

/-- The positive value `num / den` rounded to the working digits. -/
def toWorkingDigits (num den : Nat) : Nat × Int :=
  let exponent := scale num den - workingDigits
  (nearest (num * tenTo (-exponent).toNat) (den * tenTo exponent.toNat), exponent)

namespace Decimal

/-- The quotient of two decimals, the second one positive. A quotient with few enough
digits is exact. -/
def div (a b : Decimal) : Decimal :=
  let shift := a.exponent - b.exponent
  let num := a.coefficient * tenTo shift.toNat
  let den := b.coefficient * tenTo (-shift).toNat
  if num == 0 then ⟨a.negative, 0, 0⟩
  else
    let (c, e) := toWorkingDigits num den
    ⟨a.negative, c, e⟩

/-- The greatest whole number that is not greater. A negative zero keeps its sign. -/
def floor (a : Decimal) : Decimal :=
  let num := a.coefficient * tenTo a.exponent.toNat
  let den := tenTo (-a.exponent).toNat
  if a.negative then ⟨true, (num + den - 1) / den, 0⟩ else ⟨false, num / den, 0⟩

/-- The product of a decimal with a positive one, rounded to the working digits. -/
def mul (a b : Decimal) : Decimal :=
  let c := a.coefficient * b.coefficient
  if digitCount c ≤ workingDigits then ⟨a.negative, c, a.exponent + b.exponent⟩
  else
    let (c, e) := toWorkingDigits c 1
    ⟨a.negative, c, e + a.exponent + b.exponent⟩

/-- The decimal that flooring to a positive step arrives at. -/
def floorTo (value step : Decimal) : Decimal := (value.div step).floor.mul step

end Decimal

/-- Flooring by a finite positive step. NaN and the infinities stay as they are. -/
def floorByDecimal (value : Float) (step : Decimal) : Float :=
  match Decimal.ofFloat? value with
  | some v => (v.floorTo step).toFloat
  | none => value

/-- **Flooring to a step.** Without a step, or with one that is not positive, nothing
changes. A step that is NaN gives NaN; an infinite one has no multiples. -/
def floorToStep (value : Float) : Option Step → Except Fault Float
  | none => .ok value
  | some (.whole n) => .ok (if n == 0 then value else floorByDecimal value (.ofNat n))
  | some (.real s) =>
    if s ≤ 0.0 then .ok value
    else
      match Decimal.ofFloat? s with
      | some step => .ok (floorByDecimal value step)
      | none => if s.isNaN || value.isNaN then .ok (0.0 / 0.0) else .error .undefinedOperation

end Number

end OrderDesk

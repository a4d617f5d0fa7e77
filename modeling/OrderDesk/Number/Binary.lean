import OrderDesk.Number.Power

/-!
# The exact value of a double

A finite double is a sign, a whole significand and a power of two. Everything that
must be exact (its shortest text, its text with fixed places, its decimal) is
computed from these three.
-/

namespace OrderDesk.Number

/-- A finite double: `± significand · 2 ^ exponent`. -/
structure Binary where
  /-- The sign; zero has one too. -/
  negative : Bool
  /-- The significand with its hidden bit. -/
  significand : Nat
  /-- The power of two that the significand is scaled by. -/
  exponent : Int
  deriving DecidableEq, Repr

namespace Binary

/-- The exact value of a finite double; none for the infinities and for NaN. -/
def ofFloat? (x : Float) : Option Binary :=
  let bits := x.toBits.toNat
  let negative := bits / twoTo 63 == 1
  let biased := bits / twoTo 52 % 2048
  let fraction := bits % twoTo 52
  if biased == 2047 then none
  else if biased == 0 then some ⟨negative, fraction, -1074⟩
  else some ⟨negative, fraction + twoTo 52, Int.ofNat biased - 1075⟩

/-- The numerator of the magnitude. -/
def num (b : Binary) : Nat := b.significand * twoTo b.exponent.toNat

/-- The denominator of the magnitude, a power of two. -/
def den (b : Binary) : Nat := twoTo (-b.exponent).toNat

/-- The value of a finite double as a rational number. -/
def toRat (b : Binary) : Rat :=
  mkRat (if b.negative then -Int.ofNat b.num else Int.ofNat b.num) b.den

/-- The whole part of the value, cut toward zero. -/
def truncate (b : Binary) : Int :=
  let whole : Nat := b.num / b.den
  if b.negative then -(whole : Int) else whole

/-- The value is a whole number. -/
def isWhole (b : Binary) : Bool := b.num % b.den == 0

theorem den_pos (b : Binary) : 0 < b.den := twoTo_pos _

end Binary

end OrderDesk.Number

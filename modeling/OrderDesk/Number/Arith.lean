import OrderDesk.Number.Places

/-!
# The arithmetic of amounts

Sums of fills, weighted prices and positions are computed in doubles. Their laws are
laws of exact arithmetic, so the computations are written once, over any type of
numbers with the operations below, and can be read in doubles or in rationals.
-/

namespace OrderDesk

/-- The operations that amounts and prices are computed with. -/
class Arith (K : Type) extends Zero K, Add K, Sub K, Mul K, Div K, LT K, LE K, BEq K where
  hundred : K
  decLt : DecidableLT K
  decLe : DecidableLE K
  /-- Rounding to a number of places, a half to the even neighbour. -/
  roundTo : Nat → K → K

-- over a type that has operations of its own, those are found before these
attribute [instance (100)] Arith.toZero Arith.toAdd Arith.toSub Arith.toMul Arith.toDiv
  Arith.toLT Arith.toLE Arith.toBEq

namespace Arith

variable {K : Type} [Arith K]

instance : DecidableLT K := decLt

instance : DecidableLE K := decLe

/-- A number that counts as present: any but zero. NaN counts. -/
def nonzero (x : K) : Bool := !(x == 0)

/-- The second number when it is smaller, else the first. -/
def cap (x limit : K) : K := if limit < x then limit else x

/-- The distance between two numbers. -/
def gap (x y : K) : K := if x < y then y - x else x - y

/-- The given number when it counts as present, else the other one. -/
def orElse (x : Option K) (other : K) : K :=
  match x with
  | some v => if nonzero v then v else other
  | none => other

end Arith

/-- Doubles, with their rounding at every step. -/
instance : Arith Float where
  zero := 0.0
  hundred := 100.0
  decLt := inferInstance
  decLe := inferInstance
  roundTo := Number.roundTo

/-- A rational rounded to a number of places, a half to the even neighbour. -/
def Rat.roundToPlaces (places : Nat) (x : Rat) : Rat :=
  let units := Number.nearest (x.num.natAbs * Number.tenTo places) x.den
  mkRat (if x.num < 0 then -Int.ofNat units else Int.ofNat units) (Number.tenTo places)

/-- Exact arithmetic. -/
instance : Arith Rat where
  zero := mkRat 0 1
  add := Rat.add
  sub := Rat.sub
  mul := Rat.mul
  div := Rat.div
  lt := fun a b => Rat.blt a b = true
  le := fun a b => Rat.blt b a = false
  beq := fun a b => decide (a = b)
  hundred := mkRat 100 1
  decLt := fun a b => inferInstanceAs (Decidable (Rat.blt a b = true))
  decLe := fun a b => inferInstanceAs (Decidable (Rat.blt b a = false))
  roundTo := Rat.roundToPlaces

end OrderDesk

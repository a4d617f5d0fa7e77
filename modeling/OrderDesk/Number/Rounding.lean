import OrderDesk.Number.Power

/-!
# Rounding a quotient of naturals

Every number that leaves the library was rounded somewhere: a decimal to its
working digits, an amount to its places, a time to its microseconds. All of them
go through one function, the nearest whole number to a quotient with a half going
to the even neighbour.
-/

namespace OrderDesk.Number

/-- The whole number nearest to `num / den`; a half goes to the even neighbour. -/
def nearest (num den : Nat) : Nat :=
  let q := num / den
  let r := num % den
  if 2 * r < den then q
  else if den < 2 * r then q + 1
  else if q % 2 == 0 then q else q + 1

/-- **Within half a unit.** The nearest whole number misses the quotient by at most
one half, from above and from below. -/
theorem nearest_within_half (num : Nat) {den : Nat} (h : 0 < den) :
    2 * num ≤ 2 * (den * nearest num den) + den ∧
      2 * (den * nearest num den) ≤ 2 * num + den := by
  have parts := Nat.div_add_mod num den
  have small := Nat.mod_lt num h
  have next : den * (num / den + 1) = den * (num / den) + den := Nat.mul_succ _ _
  unfold nearest
  dsimp only
  split
  · omega
  · split
    · omega
    · split <;> omega

/-- A quotient without remainder is left as it is. -/
theorem nearest_mul (q : Nat) {den : Nat} (h : 0 < den) : nearest (q * den) den = q := by
  simp [nearest, Nat.mul_div_cancel q h, h]

/-- How many decimal digits a number has; zero has one. -/
def digitCount (n : Nat) : Nat :=
  if n < 10 then 1 else digitCount (n / 10) + 1

/-- The least power of ten above `num / den`: the quotient lies below `10 ^ scale`
and not below `10 ^ (scale - 1)`. Both numbers are positive. -/
def scale (num den : Nat) : Int :=
  let guess : Int := (digitCount num : Int) - digitCount den
  if num * tenTo (-guess).toNat < den * tenTo guess.toNat then guess else guess + 1

end OrderDesk.Number

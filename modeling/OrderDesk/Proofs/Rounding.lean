import Mathlib.Algebra.Order.Field.Rat
import Mathlib.Tactic.Linarith
import Mathlib.Tactic.Ring
import Mathlib.Tactic.Zify
import OrderDesk.Number.Arith

/-!
# Rounding keeps the order

A half goes to the even neighbour, so whether rounding takes a quotient beyond a whole number `k` is
decided at `k` and a half, and there by the parity of `k` alone. The quotient decides, and not how
it is written as a fraction. So a larger quotient is never rounded to a smaller number, and neither
is a larger number that is rounded to places.
-/

namespace OrderDesk

namespace Number

/-- **When rounding goes beyond a whole number**: the quotient is beyond the half above it, or is
this half and the number is odd. -/
theorem lt_nearest_iff {num den : Nat} (k : Nat) (h : 0 < den) :
    k < nearest num den ↔ den * (2 * k + 1) < 2 * num
      ∨ den * (2 * k + 1) = 2 * num ∧ k % 2 = 1 := by
  have parts := Nat.div_add_mod num den
  have small := Nat.mod_lt num h
  unfold nearest
  dsimp only
  generalize num / den = q at parts
  generalize num % den = r at parts small
  have half : den * (2 * k + 1) = 2 * (den * k) + den := by ring
  rcases lt_trichotomy k q with less | rfl | greater
  · have step : den * k + den ≤ den * q := Nat.mul_le_mul_left den less
    have above : den * (2 * k + 1) < 2 * num := by omega
    refine iff_of_true ?_ (.inl above)
    split_ifs <;> omega
  · split_ifs with below beyond even
    · omega
    · omega
    · simp only [beq_iff_eq] at even
      omega
    · simp only [beq_iff_eq] at even
      omega
  · have step : den * q + den ≤ den * k := Nat.mul_le_mul_left den greater
    refine iff_of_false ?_ (by omega)
    split_ifs <;> omega

/-- **A larger quotient is not rounded to a smaller number.** -/
theorem nearest_mono {n d m e : Nat} (hd : 0 < d) (he : 0 < e) (h : n * e ≤ m * d) :
    nearest n d ≤ nearest m e := by
  by_contra less
  have passes := (lt_nearest_iff _ hd).mp (not_le.mp less)
  have stays := (lt_nearest_iff (nearest m e) he).not.mp (lt_irrefl _)
  generalize nearest m e = k at passes stays
  -- both quotients are held against the same half, over the product of the denominators
  have half : d * (e * (2 * k + 1)) = e * (d * (2 * k + 1)) := by ring
  have larger : e * (2 * n) ≤ d * (2 * m) := by linarith
  rcases passes with beyond | ⟨tie, odd⟩
  · have above : d * (e * (2 * k + 1)) < d * (2 * m) := by
      rw [half]
      exact (Nat.mul_lt_mul_of_pos_left beyond he).trans_le larger
    exact stays (.inl (Nat.lt_of_mul_lt_mul_left above))
  · have above : d * (e * (2 * k + 1)) ≤ d * (2 * m) := by
      rw [half, tie]
      exact larger
    rcases (Nat.le_of_mul_le_mul_left above hd).lt_or_eq with strict | same
    · exact stays (.inl strict)
    · exact stays (.inr ⟨same, odd⟩)

/-- Equal quotients are rounded to the same number. -/
theorem nearest_congr {n d m e : Nat} (hd : 0 < d) (he : 0 < e) (h : n * e = m * d) :
    nearest n d = nearest m e :=
  (nearest_mono hd he h.le).antisymm (nearest_mono he hd h.ge)

end Number

open Number (nearest tenTo tenTo_pos)

section

variable {x y : Rat}

/-- What a number that is not negative is rounded to, as a fraction. -/
theorem Rat.roundToPlaces_of_nonneg (places : Nat) (h : 0 ≤ x) :
    roundToPlaces places x
      = nearest (x.num.natAbs * tenTo places) x.den / (tenTo places : Nat) := by
  unfold roundToPlaces
  dsimp only
  rw [if_neg (not_lt.mpr (Rat.num_nonneg.mpr h)), Rat.mkRat_eq_div]
  rfl

theorem Rat.roundToPlaces_nonneg (places : Nat) (h : 0 ≤ x) : 0 ≤ roundToPlaces places x := by
  rw [roundToPlaces_of_nonneg places h]
  exact div_nonneg (Nat.cast_nonneg _) (Nat.cast_nonneg _)

theorem Rat.roundToPlaces_zero (places : Nat) : roundToPlaces places 0 = 0 := by
  rw [roundToPlaces_of_nonneg places le_rfl]
  show (nearest (0 * tenTo places) 1 : Rat) / _ = 0
  rw [Nat.zero_mul]
  exact zero_div _

/-- **A larger number is not rounded to a smaller one.** -/
theorem Rat.roundToPlaces_mono (places : Nat) (h : 0 ≤ x) (le : x ≤ y) :
    roundToPlaces places x ≤ roundToPlaces places y := by
  rw [roundToPlaces_of_nonneg places h, roundToPlaces_of_nonneg places (h.trans le)]
  refine div_le_div_of_nonneg_right ?_ (Nat.cast_nonneg _)
  rw [Nat.cast_le]
  refine Number.nearest_mono x.den_pos y.den_pos ?_
  have cross : x.num.natAbs * y.den ≤ y.num.natAbs * x.den := by
    have := (Rat.le_iff _ _).mp le
    zify
    rw [abs_of_nonneg (Rat.num_nonneg.mpr h), abs_of_nonneg (Rat.num_nonneg.mpr (h.trans le))]
    exact this
  calc x.num.natAbs * tenTo places * y.den = x.num.natAbs * y.den * tenTo places := by ring
    _ ≤ y.num.natAbs * x.den * tenTo places := Nat.mul_le_mul_right _ cross
    _ = y.num.natAbs * tenTo places * x.den := by ring

end

end OrderDesk

import Mathlib.Algebra.Order.Field.Basic
import Mathlib.Algebra.Order.Field.Power
import Mathlib.Algebra.Order.Field.Rat
import Mathlib.Tactic.FieldSimp
import Mathlib.Tactic.Linarith
import OrderDesk.Number.Rounding

/-!
# How many digits a number has

A quotient is written with some number of digits, and to know where these begin one needs its scale,
the least power of ten above it. The scale is guessed from how many digits the two numbers have,
without dividing them. The guess is the scale or one less than it, so one comparison, of whole
numbers again, settles which (`scale_spec`).
-/

namespace OrderDesk.Number

/-! ## Powers of ten -/

theorem tenTo_add (i j : Nat) : tenTo (i + j) = tenTo i * tenTo j := Nat.pow_add ..

theorem tenTo_le_tenTo {i j : Nat} (h : i ≤ j) : tenTo i ≤ tenTo j :=
  Nat.pow_le_pow_right (by decide) h

theorem cast_tenTo (k : Nat) : (tenTo k : Rat) = 10 ^ k := Nat.cast_pow 10 k

/-- A power of ten as a quotient of whole ones. -/
theorem ten_zpow (e : Int) : (10 : Rat) ^ e = tenTo e.toNat / tenTo (-e).toNat := by
  rw [cast_tenTo, cast_tenTo]
  rcases le_total 0 e with nonneg | nonpos
  · rw [Int.toNat_of_nonpos (neg_nonpos.mpr nonneg), pow_zero, div_one, ← zpow_natCast,
      Int.toNat_of_nonneg nonneg]
  · rw [Int.toNat_of_nonpos nonpos, pow_zero, ← zpow_natCast,
      Int.toNat_of_nonneg (neg_nonneg.mpr nonpos), zpow_neg, one_div, inv_inv]

theorem ten_zpow_pos (e : Int) : (0 : Rat) < 10 ^ e := zpow_pos (by norm_num) e

/-- A fraction that is scaled by a power of ten on either side. -/
theorem scaled_div (num den : Nat) (e : Int) :
    ((num * tenTo (-e).toNat : Nat) : Rat) / (den * tenTo e.toNat : Nat)
      = num / den / 10 ^ e := by
  rw [ten_zpow, Nat.cast_mul, Nat.cast_mul, mul_div_mul_comm, div_div_eq_mul_div, mul_div_assoc]

/-! ## Digits -/

theorem digitCount_zero : digitCount 0 = 1 := by rw [digitCount, if_pos (by decide)]

theorem digitCount_pos (n : Nat) : 0 < digitCount n := by
  rw [digitCount]
  split <;> omega

/-- A number is below the power of ten that its digits count. -/
theorem lt_tenTo_digitCount (n : Nat) : n < tenTo (digitCount n) := by
  induction n using digitCount.induct with
  | case1 n small =>
    rw [digitCount, if_pos small]
    exact small
  | case2 n large ih =>
    rw [digitCount, if_neg large, tenTo_succ]
    omega

/-- A number is not below the power of ten before. -/
theorem tenTo_le_of_pos {n : Nat} (h : 0 < n) : tenTo (digitCount n - 1) ≤ n := by
  induction n using digitCount.induct with
  | case1 n small =>
    rw [digitCount, if_pos small]
    exact h
  | case2 n large ih =>
    obtain ⟨k, isCount⟩ := Nat.exists_eq_add_of_lt (digitCount_pos (n / 10))
    have below := ih (by omega)
    rw [digitCount, if_neg large]
    simp only [isCount, Nat.zero_add, Nat.add_sub_cancel] at below ⊢
    rw [tenTo_succ]
    omega

/-- How many digits a number has, as powers of ten around it. -/
theorem digitCount_spec {n : Nat} (h : 0 < n) :
    (10 : Rat) ^ ((digitCount n : Int) - 1) ≤ n ∧ (n : Rat) < 10 ^ (digitCount n : Int) := by
  have exponent : (digitCount n : Int) - 1 = (digitCount n - 1 : Nat) := by
    have := digitCount_pos n
    omega
  rw [exponent, zpow_natCast, zpow_natCast, ← cast_tenTo, ← cast_tenTo, Nat.cast_le, Nat.cast_lt]
  exact ⟨tenTo_le_of_pos h, lt_tenTo_digitCount n⟩

/-- A number is **short** when it has seventeen digits at most before the zeros at its end. -/
def IsShort (n : Nat) : Prop := ∃ digits zeros, n = digits * tenTo zeros ∧ digits ≤ tenTo 17

theorem IsShort.of_le {n : Nat} (h : n ≤ tenTo 17) : IsShort n := ⟨n, 0, (Nat.mul_one n).symm, h⟩

theorem IsShort.mul_tenTo {n : Nat} (h : IsShort n) (k : Nat) : IsShort (n * tenTo k) := by
  obtain ⟨digits, zeros, rfl, few⟩ := h
  exact ⟨digits, zeros + k, by rw [tenTo_add, Nat.mul_assoc], few⟩

/-! ## Scales -/

section

variable {num den : Nat}

/-- What is tested when the scale is guessed. -/
theorem scaled_lt_iff (hd : 0 < den) (e : Int) :
    num * tenTo (-e).toNat < den * tenTo e.toNat ↔ (num / den : Rat) < 10 ^ e := by
  have positive : (0 : Rat) < (den * tenTo e.toNat : Nat) :=
    Nat.cast_pos.mpr (Nat.mul_pos hd (tenTo_pos _))
  rw [← div_lt_one (ten_zpow_pos e), ← scaled_div, div_lt_one positive, Nat.cast_lt]

/-- **The scale of a quotient**: the quotient is below this power of ten, and not below the one
before. -/
theorem scale_spec (hn : 0 < num) (hd : 0 < den) :
    (num / den : Rat) < 10 ^ scale num den ∧ (10 : Rat) ^ (scale num den - 1) ≤ num / den := by
  obtain ⟨numAbove, numBelow⟩ := digitCount_spec hn
  obtain ⟨denAbove, denBelow⟩ := digitCount_spec hd
  have denPos : (0 : Rat) < den := Nat.cast_pos.mpr hd
  have ten : (10 : Rat) ≠ 0 := by norm_num
  unfold scale
  generalize (digitCount num : Int) = n at *
  generalize (digitCount den : Int) = d at *
  dsimp only
  split_ifs with less
  · rw [scaled_lt_iff hd] at less
    refine ⟨less, ?_⟩
    rw [le_div_iff₀ denPos]
    calc (10 : Rat) ^ (n - d - 1) * den ≤ 10 ^ (n - d - 1) * 10 ^ d :=
          mul_le_mul_of_nonneg_left denBelow.le (ten_zpow_pos _).le
      _ = 10 ^ (n - 1) := by rw [← zpow_add₀ ten]; congr 1; omega
      _ ≤ num := numAbove
  · rw [scaled_lt_iff hd, not_lt] at less
    refine ⟨?_, by rwa [add_sub_cancel_right]⟩
    rw [div_lt_iff₀ denPos]
    calc (num : Rat) < 10 ^ n := numBelow
      _ = 10 ^ (n - d + 1) * 10 ^ (d - 1) := by rw [← zpow_add₀ ten]; congr 1; omega
      _ ≤ 10 ^ (n - d + 1) * den := mul_le_mul_of_nonneg_left denAbove (ten_zpow_pos _).le

end

end OrderDesk.Number

import OrderDesk.Proofs.Digits
import OrderDesk.Proofs.Nearest

/-!
# Reading decimals

A decimal is read in one of four ways. A small one is multiplied or divided by a power of ten, in
doubles, since both numbers are exact and only the result is rounded. Any other is computed exactly
and then rounded. And one that is far too large or far too small is not computed at all. In all four
ways it arrives at the double nearest to it (`magnitudeToFloat_eq`), and that is why a larger
decimal is never read as a smaller double (`Decimal.toFloat_le`).
-/

namespace OrderDesk.Number

open Float.Model (UnpackedFloat Format)

/-! ## Arithmetic of whole numbers -/

namespace Binary

section

variable {b c : Binary}

theorem unpacked_of_nonneg (nonneg : b.negative = false) (pos : 0 < b.significand) :
    b.unpacked = .finite .positive b.significand b.exponent pos := by
  obtain ⟨negative, m, e⟩ := b
  subst nonneg
  exact unpacked_of_pos pos

/-- **A product of doubles** is the nearest double, the first being no smallest one. -/
theorem mul_unpacked (hb : b.IsNormal) (hc : c.IsNormal) (nonnegB : b.negative = false)
    (nonnegC : c.negative = false) (leading : 2 ^ 52 ≤ b.significand) (pos : 0 < c.significand) :
    UnpackedFloat.mul .binary64 b.unpacked c.unpacked
      = (ofQuotient (b.units * c.units) perOne).unpacked := by
  have digits : 52 ≤ (b.significand * c.significand).log2 :=
    (Nat.le_log2 (Nat.mul_pos (by omega) pos).ne').mpr
      (leading.trans (Nat.le_mul_of_pos_right _ pos))
  rw [unpacked_of_nonneg nonnegB (by omega), unpacked_of_nonneg nonnegC pos,
    mul_finite _ _ (.inl digits)]
  refine congrArg unpacked (ofQuotient_congr (twoTo_pos _) perOne_pos ?_)
  have leastB := hb.least
  have leastC := hc.least
  have powers : twoTo (b.exponent + c.exponent + 1074).toNat * perOne
      = twoTo (b.exponent + 1074).toNat * twoTo (c.exponent + 1074).toNat
        * twoTo (-(b.exponent + c.exponent + 1074)).toNat := by
    rw [perOne, ← twoTo_add, ← twoTo_add, ← twoTo_add]
    congr 1
    omega
  unfold units
  calc b.significand * c.significand * twoTo (b.exponent + c.exponent + 1074).toNat * perOne
      = b.significand * c.significand
        * (twoTo (b.exponent + c.exponent + 1074).toNat * perOne) := by ring
    _ = _ := by rw [powers]; ring

/-- **A quotient of doubles** is the nearest double. -/
theorem div_unpacked (hb : b.IsNormal) (hc : c.IsNormal) (nonnegB : b.negative = false)
    (nonnegC : c.negative = false) (posB : 0 < b.significand) (posC : 0 < c.significand) :
    UnpackedFloat.div .binary64 b.unpacked c.unpacked
      = (ofQuotient (b.units * perOne) c.units).unpacked := by
  rw [unpacked_of_nonneg nonnegB posB, unpacked_of_nonneg nonnegC posC, div_finite]
  refine congrArg unpacked (ofQuotient_congr (Nat.mul_pos posC (twoTo_pos _))
    (units_pos posC) ?_)
  have leastB := hb.least
  have leastC := hc.least
  have powers : twoTo (b.exponent - c.exponent + 1074).toNat * twoTo (c.exponent + 1074).toNat
      = twoTo (b.exponent + 1074).toNat * perOne
        * twoTo (-(b.exponent - c.exponent + 1074)).toNat := by
    rw [perOne, ← twoTo_add, ← twoTo_add, ← twoTo_add]
    congr 1
    omega
  unfold units
  calc b.significand * twoTo (b.exponent - c.exponent + 1074).toNat
        * (c.significand * twoTo (c.exponent + 1074).toNat)
      = b.significand * c.significand * (twoTo (b.exponent - c.exponent + 1074).toNat
        * twoTo (c.exponent + 1074).toNat) := by ring
    _ = _ := by rw [powers]; ring

/-- A number of few digits has no digits in excess before its zeros. -/
theorem excess_mul_twoTo {n : Nat} (h : n < 2 ^ 53) (p : Nat) : excess (n * twoTo p) 1 ≤ p := by
  by_contra many
  have some : 0 < excess (n * twoTo p) 1 := by omega
  have large : 2 ^ 53 * twoTo p ≤ n * twoTo p := by
    calc twoTo 53 * twoTo p = twoTo (53 + p) := (twoTo_add 53 p).symm
      _ ≤ twoTo (52 + excess (n * twoTo p) 1) := twoTo_le_twoTo (by omega)
      _ = 1 * twoTo (52 + excess (n * twoTo p) 1) := (Nat.one_mul _).symm
      _ ≤ n * twoTo p := le_of_excess some
  exact absurd (Nat.le_of_mul_le_mul_right large (twoTo_pos p)) (Nat.not_le.mpr h)

/-- A number of few digits before its zeros is a double. -/
theorem units_ofQuotient_of_few {n : Nat} (h : n < 2 ^ 53) (p : Nat) :
    (ofQuotient (n * twoTo p) 1).units = n * twoTo p := by
  obtain ⟨rest, split⟩ := Nat.exists_eq_add_of_le' (excess_mul_twoTo h p)
  rw [units_ofQuotient Nat.one_pos, Nat.one_mul]
  generalize excess (n * twoTo p) 1 = k at split ⊢
  rw [split, twoTo_add, ← Nat.mul_assoc, nearest_mul _ (twoTo_pos k)]

theorem exponent_ofQuotient_le {n : Nat} (h : n < 2 ^ 53) (p : Nat) :
    (ofQuotient (n * twoTo p) 1).exponent ≤ p - 1073 := by
  have few := excess_mul_twoTo h p
  unfold ofQuotient
  dsimp only
  split_ifs <;> dsimp only <;> omega

/-- **A whole number of few digits** becomes a double. -/
theorem unpack_toFloat_whole {n : Nat} (pos : 0 < n) (h : n < 2 ^ 53) :
    n.toUInt64.toFloat.toModel.unpack = (ofQuotient (n * perOne) 1).unpacked := by
  have whole : n.toUInt64.toNat = n := by
    show n % 2 ^ 64 = n
    omega
  have rounded : UnpackedFloat.ofUInt64 .binary64 n.toUInt64
      = (ofQuotient (n * perOne) 1).unpacked := by
    show UnpackedFloat.normalize .binary64 (n.toUInt64.toNat : Int) 0 .positive = _
    rw [whole]
    unfold UnpackedFloat.normalize
    rw [compare_gt_iff_gt.mpr (Int.natCast_pos.mpr pos)]
    exact round_eq pos
  have same : n.toUInt64.toFloat = (ofQuotient (n * perOne) 1).toFloat :=
    congrArg (fun u => Float.ofModel (.pack u)) rounded
  have small : (ofQuotient (n * perOne) 1).exponent ≤ 971 :=
    (exponent_ofQuotient_le h 1074).trans (by decide)
  rw [same, unpack_of_ofFloat? (ofFloat?_toFloat (isNormal_ofQuotient Nat.one_pos) small)]

end

/-- A double that is a whole number is no smallest one. -/
theorem leading_of_units {b : Binary} (h : b.IsNormal) (large : perOne ≤ b.units) :
    2 ^ 52 ≤ b.significand := by
  rcases h.leading with leading | least
  · exact leading
  · have significand : b.units = b.significand := by
      rw [units, least]
      exact Nat.mul_one _
    calc 2 ^ 52 = twoTo 52 := rfl
      _ ≤ twoTo 1074 := twoTo_le_twoTo (by decide)
      _ ≤ b.significand := significand ▸ large

end Binary

/-! ## Decimals -/

/-- **The double nearest to a decimal** of some magnitude. -/
def nearestDecimal (c : Nat) (e : Int) : Binary :=
  .ofQuotient (c * tenTo e.toNat * Binary.perOne) (tenTo (-e).toNat)

open Binary (perOne perOne_pos ofQuotient ofQuotient_congr isNormal_ofQuotient ofQuotient_negative)

theorem isNormal_nearestDecimal (c : Nat) (e : Int) : (nearestDecimal c e).IsNormal :=
  isNormal_ofQuotient (tenTo_pos _)

theorem nearestDecimal_negative (c : Nat) (e : Int) : (nearestDecimal c e).negative = false :=
  ofQuotient_negative _ _

section

variable {m e : Nat}

/-- The powers of ten that are kept are exact. -/
theorem powersOfTen_exact (i : Fin 23) : ∃ c : Binary, c.IsNormal ∧ c.negative = false
    ∧ Float.exactlyRepresentablePowersOfTen[i].toModel.unpack = c.unpacked
    ∧ c.units = tenTo i * perOne := by
  have kept : ∀ i : Fin 23, (Binary.ofFloat? Float.exactlyRepresentablePowersOfTen[i]).map
      (fun b => (b.negative, b.units)) = some (false, tenTo i * perOne) := by
    decide +kernel
  obtain ⟨c, isExact, same⟩ := Option.map_eq_some_iff.mp (kept i)
  obtain ⟨nonneg, units⟩ := Prod.mk.inj same
  exact ⟨c, Binary.isNormal_of_ofFloat? isExact, nonneg, Binary.unpack_of_ofFloat? isExact, units⟩

/-- **Small numbers** are read in doubles. -/
theorem ofScientific_of_small (pos : 0 < m) (few : m < 2 ^ 53) (h : e ≤ 22) :
    Float.ofScientific m false e = (ofQuotient (m * tenTo e * perOne) 1).toFloat
      ∧ Float.ofScientific m true e = (ofQuotient (m * perOne) (tenTo e)).toFloat := by
  obtain ⟨c, normal, nonneg, unpacked, units⟩ := powersOfTen_exact ⟨e, Nat.lt_succ_of_le h⟩
  have whole := Binary.unpack_toFloat_whole pos few
  have wholeNormal : (ofQuotient (m * perOne) 1).IsNormal := isNormal_ofQuotient Nat.one_pos
  have wholeUnits : (ofQuotient (m * perOne) 1).units = m * perOne :=
    Binary.units_ofQuotient_of_few few 1074
  have leading : 2 ^ 52 ≤ (ofQuotient (m * perOne) 1).significand := by
    refine Binary.leading_of_units wholeNormal ?_
    rw [wholeUnits]
    exact Nat.le_mul_of_pos_left _ pos
  have positive : 0 < c.significand := by
    by_contra none
    rw [Binary.units_eq_zero none] at units
    exact absurd units (Nat.mul_pos (tenTo_pos e) perOne_pos).ne
  have product := Binary.mul_unpacked wholeNormal normal (ofQuotient_negative _ _) nonneg leading
    positive
  have quotient := Binary.div_unpacked wholeNormal normal (ofQuotient_negative _ _) nonneg
    (by omega) positive
  rw [wholeUnits, units] at product quotient
  have products : ofQuotient (m * perOne * (tenTo e * perOne)) perOne
      = ofQuotient (m * tenTo e * perOne) 1 :=
    ofQuotient_congr perOne_pos Nat.one_pos (by ring)
  have quotients : ofQuotient (m * perOne * perOne) (tenTo e * perOne)
      = ofQuotient (m * perOne) (tenTo e) :=
    ofQuotient_congr (Nat.mul_pos (tenTo_pos e) perOne_pos) (tenTo_pos e) (by ring)
  rw [products, ← whole, ← unpacked] at product
  rw [quotients, ← whole, ← unpacked] at quotient
  unfold Float.ofScientific
  rw [dif_pos ⟨few, h⟩, dif_pos ⟨few, h⟩]
  exact ⟨congrArg (fun u => Float.ofModel (.pack u)) product,
    congrArg (fun u => Float.ofModel (.pack u)) quotient⟩

/-- **All other numbers** are read exactly and then rounded. -/
theorem ofScientific_model {e : Int} (pos : 0 < m) (most : e ≤ 2048)
    (least : -(2048 + (m.log2 : Int)) ≤ e) :
    UnpackedFloat.ofScientific .binary64 m e = (nearestDecimal m e).unpacked := by
  have notHuge : ¬ e > 2 ^ Format.binary64.exponentBits := by
    show ¬ e > 2 ^ 11
    omega
  have notTiny : ¬ e < -((2 ^ Format.binary64.exponentBits : Int) + m.log2) := by
    show ¬ e < -((2 ^ 11 : Int) + m.log2)
    omega
  unfold UnpackedFloat.ofScientific
  rw [dif_neg pos.ne', if_neg notHuge, if_neg notTiny]
  by_cases nonneg : 0 ≤ e
  · have shifted : 0 < m <<< 53 := by
      rw [Nat.shiftLeft_eq]
      exact Nat.mul_pos pos (twoTo_pos 53)
    have power : 0 < 10 ^ e.toNat := tenTo_pos _
    have digits : 52 ≤ (m <<< 53 * 10 ^ e.toNat).log2 := by
      rw [Nat.le_log2 (Nat.mul_pos shifted power).ne', Nat.shiftLeft_eq]
      calc 2 ^ 52 ≤ 2 ^ 53 := Nat.pow_le_pow_right (by decide) (by decide)
        _ ≤ m * 2 ^ 53 := Nat.le_mul_of_pos_left _ pos
        _ ≤ m * 2 ^ 53 * 10 ^ e.toNat := Nat.le_mul_of_pos_right _ power
    rw [if_pos nonneg]
    refine (mul_finite shifted power (.inl digits)).trans (congrArg Binary.unpacked ?_)
    refine ofQuotient_congr (twoTo_pos _) (tenTo_pos _) ?_
    have split : perOne = twoTo 53 * twoTo 1021 := by rw [perOne, ← twoTo_add]
    rw [Int.toNat_of_nonpos (neg_nonpos.mpr nonneg), Nat.shiftLeft_eq, split]
    show m * twoTo 53 * tenTo e.toNat * twoTo 1021 * tenTo 0
      = m * tenTo e.toNat * (twoTo 53 * twoTo 1021) * twoTo 0
    rw [show tenTo 0 = twoTo 0 from rfl]
    ring
  · have power : 0 < 10 ^ (-e).toNat := tenTo_pos _
    rw [if_neg nonneg]
    refine (div_finite pos power).trans (congrArg Binary.unpacked ?_)
    refine ofQuotient_congr (Nat.mul_pos power (twoTo_pos _)) (tenTo_pos _) ?_
    rw [Int.toNat_of_nonpos (show e ≤ 0 by omega)]
    show m * perOne * tenTo (-e).toNat = m * tenTo 0 * perOne * (tenTo (-e).toNat * twoTo 0)
    rw [show tenTo 0 = 1 from rfl, show twoTo 0 = 1 from rfl, Nat.mul_one, Nat.mul_one]

/-- **Numbers are read as the nearest double.** -/
theorem ofScientific_eq {e : Int} (pos : 0 < m) (most : e ≤ 2048)
    (least : -(2048 + (m.log2 : Int)) ≤ e) :
    Float.ofScientific m (decide (e < 0)) e.natAbs = (nearestDecimal m e).toFloat := by
  by_cases small : m < 2 ^ 53 ∧ e.natAbs ≤ 22
  · obtain ⟨products, quotients⟩ := ofScientific_of_small pos small.1 small.2
    by_cases negative : e < 0
    · rw [decide_eq_true negative, quotients]
      unfold nearestDecimal
      rw [Int.toNat_of_nonpos negative.le, show (-e).toNat = e.natAbs by omega,
        show tenTo 0 = 1 from rfl, Nat.mul_one]
    · rw [decide_eq_false negative, products]
      unfold nearestDecimal
      rw [Int.toNat_of_nonpos (show -e ≤ 0 by omega), show e.toNat = e.natAbs by omega]
      rfl
  · have signed : (if decide (e < 0) then Int.negOfNat e.natAbs else Int.ofNat e.natAbs) = e := by
      by_cases negative : e < 0
      · rw [decide_eq_true negative, if_pos rfl, Int.negOfNat_eq, Int.ofNat_eq_natCast]
        omega
      · rw [decide_eq_false negative, if_neg Bool.false_ne_true, Int.ofNat_eq_natCast]
        omega
    unfold Float.ofScientific
    rw [dif_neg small]
    dsimp only
    rw [signed]
    exact congrArg (fun u => Float.ofModel (.pack u)) (ofScientific_model pos most least)

end

section

variable {c : Nat} {e : Int}

/-- The least power of two that is beyond all doubles. -/
def firstLarge : Binary := ⟨false, 2 ^ 52, 972⟩

theorem isNormal_firstLarge : firstLarge.IsNormal := ⟨by decide, by decide, .inl le_rfl⟩

theorem units_firstLarge : firstLarge.units = twoTo 1024 * perOne := by
  unfold firstLarge Binary.units
  dsimp only
  rw [show ((972 : Int) + 1074).toNat = 2046 from rfl, show 2 ^ 52 = twoTo 52 from rfl, perOne,
    ← twoTo_add, ← twoTo_add]

/-- A decimal far above all doubles reads as infinity. -/
theorem nearestDecimal_of_huge (pos : 0 < c) (huge : 400 < (digitCount c : Int) + e) :
    (nearestDecimal c e).toFloat = 1.0 / 0.0 := by
  have above : firstLarge.units * tenTo (-e).toNat ≤ c * tenTo e.toNat * perOne * 1 := by
    have powers : tenTo 400 * tenTo (-e).toNat ≤ c * tenTo e.toNat := by
      calc tenTo 400 * tenTo (-e).toNat = tenTo (400 + (-e).toNat) := (tenTo_add ..).symm
        _ ≤ tenTo (digitCount c - 1 + e.toNat) := tenTo_le_tenTo (by omega)
        _ = tenTo (digitCount c - 1) * tenTo e.toNat := tenTo_add ..
        _ ≤ c * tenTo e.toNat := Nat.mul_le_mul_right _ (tenTo_le_of_pos pos)
    have largest : twoTo 1024 ≤ tenTo 400 := by decide +kernel
    calc firstLarge.units * tenTo (-e).toNat = twoTo 1024 * tenTo (-e).toNat * perOne := by
          rw [units_firstLarge]
          ring
      _ ≤ tenTo 400 * tenTo (-e).toNat * perOne :=
          Nat.mul_le_mul_right _ (Nat.mul_le_mul_right _ largest)
      _ ≤ c * tenTo e.toNat * perOne := Nat.mul_le_mul_right _ powers
      _ = c * tenTo e.toNat * perOne * 1 := (Nat.mul_one _).symm
  have units := Binary.ofQuotient_mono Nat.one_pos (tenTo_pos _) above
  rw [← Nat.mul_one firstLarge.units, Binary.ofQuotient_units isNormal_firstLarge rfl Nat.one_pos]
    at units
  refine Binary.toFloat_of_large (isNormal_nearestDecimal c e) (nearestDecimal_negative c e) ?_
  by_contra small
  have below : (nearestDecimal c e).exponent < firstLarge.exponent := by
    show _ < (972 : Int)
    omega
  exact absurd (Binary.units_lt_of_exponent_lt (isNormal_nearestDecimal c e) isNormal_firstLarge
    below) (not_lt.mpr units)

/-- A zero. -/
theorem ofQuotient_zero {num den : Nat} (h : 2 * num < den) :
    ofQuotient num den = ⟨false, 0, -1074⟩ := by
  have pos : 0 < den := by omega
  refine Binary.eq_of_units_eq (isNormal_ofQuotient pos) ⟨by decide, by decide, .inr rfl⟩
    (ofQuotient_negative _ _) ?_
  have none : nearest num (den * twoTo (excess num den)) = 0 := by
    rw [← Nat.le_zero, ← not_lt, lt_nearest_iff 0 (Nat.mul_pos pos (twoTo_pos _))]
    have larger : den ≤ den * twoTo (excess num den) := Nat.le_mul_of_pos_right _ (twoTo_pos _)
    omega
  rw [Binary.units_ofQuotient pos, none, Nat.zero_mul]
  rfl

/-- The double nearest to zero. -/
theorem nearestDecimal_zero (e : Int) : nearestDecimal 0 e = ⟨false, 0, -1074⟩ := by
  refine ofQuotient_zero ?_
  rw [Nat.zero_mul, Nat.zero_mul]
  exact tenTo_pos _

/-- A decimal far below all doubles reads as zero. -/
theorem nearestDecimal_of_tiny (tiny : (digitCount c : Int) + e < -400) :
    (nearestDecimal c e).toFloat = 0.0 := by
  have negative : e < 0 := by omega
  have small : 2 * (c * tenTo e.toNat * perOne) < tenTo (-e).toNat := by
    have least : 2 * perOne ≤ tenTo 400 := by decide +kernel
    rw [Int.toNat_of_nonpos negative.le, show tenTo 0 = 1 from rfl, Nat.mul_one]
    calc 2 * (c * perOne) = c * (2 * perOne) := by ring
      _ ≤ c * tenTo 400 := Nat.mul_le_mul_left c least
      _ < tenTo (digitCount c) * tenTo 400 :=
          Nat.mul_lt_mul_of_pos_right (lt_tenTo_digitCount c) (tenTo_pos _)
      _ = tenTo (digitCount c + 400) := (tenTo_add ..).symm
      _ ≤ tenTo (-e).toNat := tenTo_le_tenTo (by omega)
  unfold nearestDecimal
  rw [ofQuotient_zero small]
  rfl

/-- **A decimal is read as the double nearest to it.** -/
theorem magnitudeToFloat_eq (c : Nat) (e : Int) :
    Decimal.magnitudeToFloat c e = (nearestDecimal c e).toFloat := by
  unfold Decimal.magnitudeToFloat
  dsimp only
  by_cases zero : c = 0
  · rw [if_pos (by simpa using zero), zero, nearestDecimal_zero]
    rfl
  have pos : 0 < c := Nat.pos_of_ne_zero zero
  rw [if_neg (by simpa using zero)]
  split_ifs with huge tiny nonneg
  · exact (nearestDecimal_of_huge pos huge).symm
  · exact (nearestDecimal_of_tiny tiny).symm
  all_goals
    have digits : digitCount c - 1 ≤ c.log2 := by
      refine (Nat.le_log2 zero).mpr (le_trans ?_ (tenTo_le_of_pos pos))
      exact Nat.pow_le_pow_left (by decide) _
    have := digitCount_pos c
    have read := @ofScientific_eq c e pos (by omega) (by omega)
  · rw [← read, decide_eq_false (by omega), show e.toNat = e.natAbs by omega]
  · rw [← read, decide_eq_true (by omega), show (-e).toNat = e.natAbs by omega]

end

/-! ## Reading keeps the order -/

section

variable {c c' : Nat} {e e' : Int}

/-- Decimals are compared over the powers of ten that they are divided by. -/
theorem cross_le_iff :
    c * tenTo e.toNat * tenTo (-e').toNat ≤ c' * tenTo e'.toNat * tenTo (-e).toNat
      ↔ (c : Rat) * 10 ^ e ≤ c' * 10 ^ e' := by
  have pos (f : Int) : (0 : Rat) < tenTo (-f).toNat := Nat.cast_pos.mpr (tenTo_pos _)
  rw [ten_zpow, ten_zpow, ← mul_div_assoc, ← mul_div_assoc, div_le_div_iff₀ (pos e) (pos e')]
  exact_mod_cast Iff.rfl

/-- **A larger decimal is not nearest to a smaller double.** -/
theorem nearestDecimal_mono (h : (c : Rat) * 10 ^ e ≤ c' * 10 ^ e') :
    (nearestDecimal c e).units ≤ (nearestDecimal c' e').units := by
  refine Binary.ofQuotient_mono (tenTo_pos _) (tenTo_pos _) ?_
  rw [Nat.mul_right_comm, Nat.mul_right_comm _ perOne]
  exact Nat.mul_le_mul_right _ (cross_le_iff.mpr h)

/-- The nearest double does not depend on how a decimal is written. -/
theorem nearestDecimal_congr (h : (c : Rat) * 10 ^ e = c' * 10 ^ e') :
    nearestDecimal c e = nearestDecimal c' e' :=
  Binary.eq_of_units_eq (isNormal_nearestDecimal c e) (isNormal_nearestDecimal c' e')
    ((nearestDecimal_negative c e).trans (nearestDecimal_negative c' e').symm)
    ((nearestDecimal_mono h.le).antisymm (nearestDecimal_mono h.ge))

end

namespace Decimal

variable {d d' : Decimal}

/-- The value of a decimal that is not negative. -/
theorem toRat_of_nonneg (h : d.negative = false) : d.toRat = d.coefficient * 10 ^ d.exponent := by
  unfold toRat
  dsimp only
  rw [h, Rat.mkRat_eq_div, ten_zpow, ← mul_div_assoc, ← Nat.cast_mul]
  rfl

theorem toFloat_of_nonneg (h : d.negative = false) :
    d.toFloat = (nearestDecimal d.coefficient d.exponent).toFloat := by
  unfold toFloat
  dsimp only
  rw [h, magnitudeToFloat_eq]
  rfl

/-- **A larger decimal does not read as a smaller double.** -/
theorem toFloat_le (h : d.negative = false) (h' : d'.negative = false) (le : d.toRat ≤ d'.toRat) :
    d.toFloat ≤ d'.toFloat := by
  rw [toRat_of_nonneg h, toRat_of_nonneg h'] at le
  rw [toFloat_of_nonneg h, toFloat_of_nonneg h']
  exact Binary.toFloat_le (isNormal_nearestDecimal _ _) (isNormal_nearestDecimal _ _)
    (nearestDecimal_negative _ _) (nearestDecimal_negative _ _) (nearestDecimal_mono le)

/-- **What a decimal reads as** does not depend on how it is written. -/
theorem toFloat_congr (h : d.negative = false) (h' : d'.negative = false)
    (same : d.toRat = d'.toRat) : d.toFloat = d'.toFloat := by
  rw [toRat_of_nonneg h, toRat_of_nonneg h'] at same
  rw [toFloat_of_nonneg h, toFloat_of_nonneg h', nearestDecimal_congr same]

end Decimal

end OrderDesk.Number

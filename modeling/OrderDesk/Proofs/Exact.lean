import Mathlib.Algebra.Order.Field.Rat
import Mathlib.Algebra.Order.Ring.Cast
import Mathlib.Tactic.Ring
import OrderDesk.Number.Arith
import OrderDesk.Proofs.Doubles

/-!
# Doubles as numbers

A finite double is a number, and it is a multiple of the smallest one. Counting it in that one makes
a whole number of it, and two doubles compare as these counts do: the sign decides first, then the
exponent, since of two doubles the one with the greater exponent has the greater magnitude, and the
significand last. So whatever is decided by comparing doubles is decided by comparing numbers.

Amounts and prices are computed the same way in doubles and in numbers (`OrderDesk.Arith`). In
doubles a product or a quotient is rounded, but a comparison is not. A computation therefore takes
the same way in both, and what it takes over without computing it is the same.
-/

namespace OrderDesk

namespace Number

open Float.Model (UnpackedFloat Format)

theorem twoTo_add (i j : Nat) : twoTo (i + j) = twoTo i * twoTo j := Nat.pow_add ..

namespace Binary

/-- The significand and the exponent **as doubles have them**: the significand has 53 bits, and the
first of them is not zero unless the exponent is the least one. -/
structure IsNormal (b : Binary) : Prop where
  below : b.significand < 2 ^ 53
  least : -1074 ≤ b.exponent
  leading : 2 ^ 52 ≤ b.significand ∨ b.exponent = -1074

/-- How many of the smallest double make one. -/
def perOne : Nat := twoTo 1074

theorem perOne_pos : 0 < perOne := twoTo_pos _

/-- The magnitude of a double, counted in the smallest one. -/
def units (b : Binary) : Nat := b.significand * twoTo (b.exponent + 1074).toNat

/-- A double, counted in the smallest one. -/
def count (b : Binary) : Int := if b.negative then -b.units else b.units

/-- The sign of a double. -/
def sign (b : Binary) : UnpackedFloat.Sign := if b.negative then .negative else .positive

/-- What a finite double is unpacked to. -/
def unpacked (b : Binary) : UnpackedFloat :=
  if h : 0 < b.significand then .finite b.sign b.significand b.exponent h else .zero b.sign

theorem unpacked_of_pos {negative : Bool} {m : Nat} {e : Int} (h : 0 < m) :
    unpacked ⟨negative, m, e⟩ = .finite (if negative then .negative else .positive) m e h :=
  dif_pos h

theorem unpacked_of_not_pos {negative : Bool} {m : Nat} {e : Int} (h : ¬ 0 < m) :
    unpacked ⟨negative, m, e⟩ = .zero (if negative then .negative else .positive) := dif_neg h

/-- The exponent of a pattern that is not an exponent of a number. -/
theorem unpackExponent_eq_iff (b : BitVec Format.binary64.numBits) (n : BitVec 11) :
    UnpackedFloat.unpackExponent b = n ↔ b.toNat / twoTo 52 % 2048 = n.toNat := by
  rw [← toNat_unpackExponent]
  exact ⟨congrArg BitVec.toNat, BitVec.eq_of_toNat_eq⟩

/-- The significand of a double, read off its pattern. -/
theorem toNat_unpackMantissa (b : BitVec Format.binary64.numBits) :
    (UnpackedFloat.unpackMantissa b).toNat = b.toNat % twoTo 52 := by
  unfold UnpackedFloat.unpackMantissa
  rw [BitVec.toNat_cast, BitVec.extractLsb_toNat, Nat.shiftRight_zero]
  rfl

/-- The sign of a double, read off its pattern. -/
theorem ofBitVec_unpackSign (b : BitVec Format.binary64.numBits) :
    UnpackedFloat.Sign.ofBitVec (UnpackedFloat.unpackSign b)
      = if b.toNat / twoTo 63 == 1 then .negative else .positive := by
  have bit : (UnpackedFloat.unpackSign b).toNat = b.toNat / twoTo 63 := by
    unfold UnpackedFloat.unpackSign
    rw [BitVec.toNat_cast, BitVec.extractLsb_toNat, Nat.shiftRight_eq_div_pow]
    have below : b.toNat < 2 ^ 64 := b.isLt
    show b.toNat / 2 ^ 63 % 2 ^ 1 = b.toNat / 2 ^ 63
    omega
  unfold UnpackedFloat.Sign.ofBitVec
  rw [← bit]
  generalize UnpackedFloat.unpackSign b = s
  rcases BitVec.eq_zero_or_eq_one s with rfl | rfl <;> rfl

/-- Two finite numbers of the same sign, significand and exponent. -/
theorem finite_congr {s : UnpackedFloat.Sign} {m n : Nat} {e f : Int} {hm : 0 < m} {hn : 0 < n}
    (significand : m = n) (exponent : e = f) :
    UnpackedFloat.finite s m e hm = .finite s n f hn := by
  subst significand exponent
  rfl

theorem isNormal_of_ofFloat? {x : Float} {b : Binary} (h : ofFloat? x = some b) : b.IsNormal := by
  have hidden : twoTo 52 = 2 ^ 52 := rfl
  have fraction : x.toBits.toNat % twoTo 52 < 2 ^ 52 := Nat.mod_lt _ (twoTo_pos 52)
  unfold ofFloat? at h
  dsimp only at h
  split at h
  · cases h
  split at h
  · cases h
    exact ⟨by dsimp only; omega, le_refl _, .inr rfl⟩
  · case isFalse positive =>
    cases h
    have : x.toBits.toNat / twoTo 52 % 2048 ≠ 0 := by simpa using positive
    exact ⟨by dsimp only; omega, by dsimp only [Int.ofNat_eq_natCast]; omega,
      .inl (by dsimp only; omega)⟩

theorem unpack_of_ofFloat? {x : Float} {b : Binary} (h : ofFloat? x = some b) :
    x.toModel.unpack = b.unpacked := by
  show UnpackedFloat.unpack .binary64 x.toBits.toBitVec = _
  have toNat : x.toBits.toNat = x.toBits.toBitVec.toNat := rfl
  unfold ofFloat? at h
  dsimp only at h
  rw [toNat] at h
  generalize x.toBits.toBitVec = bits at h
  unfold UnpackedFloat.unpack
  dsimp only
  split at h
  · cases h
  case isFalse finite =>
    rw [if_neg (by rw [unpackExponent_eq_iff]; simpa using finite)]
    split at h
    case isTrue least =>
      cases h
      rw [if_pos (by rw [unpackExponent_eq_iff]; simpa using least), ofBitVec_unpackSign]
      have mantissa := toNat_unpackMantissa bits
      by_cases zero : @UnpackedFloat.unpackMantissa .binary64 bits = 0#_
      · rw [zero] at mantissa
        have none : ¬ 0 < bits.toNat % twoTo 52 := by
          rw [← mantissa]
          decide
        rw [dif_pos zero]
        exact (unpacked_of_not_pos none).symm
      · rw [dif_neg zero]
        have positive : 0 < bits.toNat % twoTo 52 := by
          rw [← mantissa, Nat.pos_iff_ne_zero]
          exact fun isZero => zero (BitVec.eq_of_toNat_eq isZero)
        refine (finite_congr mantissa ?_).trans (unpacked_of_pos positive).symm
        rw [toNat_unpackExponent, beq_iff_eq.mp least]
        rfl
    case isFalse normal =>
      cases h
      rw [if_neg (by rw [unpackExponent_eq_iff]; simpa using normal), ofBitVec_unpackSign]
      have hidden : 0 < bits.toNat % twoTo 52 + twoTo 52 := Nat.add_pos_right _ (twoTo_pos 52)
      refine (finite_congr ?_ ?_).trans (unpacked_of_pos hidden).symm
      · rw [BitVec.toNat_append, ← Nat.shiftLeft_add_eq_or_of_lt (BitVec.isLt _),
          toNat_unpackMantissa, Nat.add_comm]
        rfl
      · rw [toNat_unpackExponent]
        rfl

section

variable {b c : Binary}

/-- **The greater exponent has the greater magnitude.** -/
theorem units_lt_of_exponent_lt (hb : b.IsNormal) (hc : c.IsNormal)
    (h : b.exponent < c.exponent) : b.units < c.units := by
  have leading : 2 ^ 52 ≤ c.significand := by
    rcases hc.leading with leading | least
    · exact leading
    · have := hb.least
      omega
  obtain ⟨k, apart⟩ : ∃ k, (c.exponent + 1074).toNat = (b.exponent + 1074).toNat + 1 + k := by
    have := hb.least
    exact ⟨(c.exponent - b.exponent - 1).toNat, by omega⟩
  calc b.units < 2 ^ 53 * twoTo (b.exponent + 1074).toNat :=
        (Nat.mul_lt_mul_right (twoTo_pos _)).mpr hb.below
    _ = 2 ^ 52 * twoTo ((b.exponent + 1074).toNat + 1) := by rw [twoTo_succ]; ring
    _ ≤ 2 ^ 52 * twoTo (c.exponent + 1074).toNat := by
        rw [apart]
        exact Nat.mul_le_mul_left _ (Nat.pow_le_pow_right (by decide) (Nat.le_add_right ..))
    _ ≤ c.units := Nat.mul_le_mul_right _ leading

/-- **Magnitudes are compared** by their exponents first. -/
theorem compare_units (hb : b.IsNormal) (hc : c.IsNormal) :
    (compare b.exponent c.exponent).then (compare b.significand c.significand)
      = compare (b.units : Int) c.units := by
  rcases lt_trichotomy b.exponent c.exponent with less | same | greater
  · have below := Int.ofNat_lt.mpr (units_lt_of_exponent_lt hb hc less)
    rw [compare_lt_iff_lt.mpr less, compare_lt_iff_lt.mpr below]
    rfl
  · have scale : 0 < twoTo (c.exponent + 1074).toNat := twoTo_pos _
    rw [compare_eq_iff_eq.mpr same, Ordering.then, units, units, same]
    rcases lt_trichotomy b.significand c.significand with less | equal | greater
    · have below := Int.ofNat_lt.mpr ((Nat.mul_lt_mul_right scale).mpr less)
      rw [compare_lt_iff_lt.mpr less, compare_lt_iff_lt.mpr below]
    · rw [equal, compare_eq_iff_eq.mpr rfl, compare_eq_iff_eq.mpr rfl]
    · have above := Int.ofNat_lt.mpr ((Nat.mul_lt_mul_right scale).mpr greater)
      rw [compare_gt_iff_gt.mpr greater, compare_gt_iff_gt.mpr above]
  · have above := Int.ofNat_lt.mpr (units_lt_of_exponent_lt hc hb greater)
    rw [compare_gt_iff_gt.mpr greater, compare_gt_iff_gt.mpr above]
    rfl

theorem units_pos (h : 0 < b.significand) : 0 < b.units := Nat.mul_pos h (twoTo_pos _)

theorem units_eq_zero (h : ¬ 0 < b.significand) : b.units = 0 := by
  rw [units, Nat.eq_zero_of_not_pos h, Nat.zero_mul]

theorem compare_neg_neg (i j : Int) : compare (-i) (-j) = (compare i j).swap := by
  rw [Int.compare_swap]
  rcases lt_trichotomy i j with less | rfl | greater
  · rw [compare_gt_iff_gt.mpr less, compare_gt_iff_gt.mpr (Int.neg_lt_neg less)]
  · rw [compare_eq_iff_eq.mpr rfl, compare_eq_iff_eq.mpr rfl]
  · rw [compare_lt_iff_lt.mpr greater, compare_lt_iff_lt.mpr (Int.neg_lt_neg greater)]

theorem count_pos {m : Nat} {e : Int} (h : 0 < m) : 0 < count ⟨false, m, e⟩ :=
  Int.natCast_pos.mpr (units_pos h)

theorem count_neg {m : Nat} {e : Int} (h : 0 < m) : count ⟨true, m, e⟩ < 0 :=
  Int.neg_neg_of_pos (Int.natCast_pos.mpr (units_pos h))

theorem count_eq_zero {s : Bool} {m : Nat} {e : Int} (h : ¬ 0 < m) : count ⟨s, m, e⟩ = 0 := by
  rw [count, units_eq_zero h]
  split <;> rfl

/-- **Doubles are compared as their counts.** -/
theorem compare_unpacked (hb : b.IsNormal) (hc : c.IsNormal) :
    b.unpacked.compare c.unpacked = some (compare b.count c.count) := by
  have magnitudes := compare_units hb hc
  obtain ⟨s, m, e⟩ := b
  obtain ⟨t, n, f⟩ := c
  by_cases left : 0 < m <;> by_cases right : 0 < n
  · rw [unpacked_of_pos left, unpacked_of_pos right]
    rcases s <;> rcases t
    · exact congrArg some magnitudes
    · exact congrArg some
        (compare_gt_iff_gt.mpr ((count_neg right).trans (count_pos left))).symm
    · exact congrArg some
        (compare_lt_iff_lt.mpr ((count_neg left).trans (count_pos right))).symm
    · exact congrArg some ((congrArg Ordering.swap magnitudes).trans (compare_neg_neg ..).symm)
  · rw [unpacked_of_pos left, unpacked_of_not_pos right, count_eq_zero right]
    rcases s
    · exact congrArg some (compare_gt_iff_gt.mpr (count_pos left)).symm
    · exact congrArg some (compare_lt_iff_lt.mpr (count_neg left)).symm
  · rw [unpacked_of_not_pos left, unpacked_of_pos right, count_eq_zero left]
    rcases t
    · exact congrArg some (compare_lt_iff_lt.mpr (count_pos right)).symm
    · exact congrArg some (compare_gt_iff_gt.mpr (count_neg right)).symm
  · rw [unpacked_of_not_pos left, unpacked_of_not_pos right, count_eq_zero left,
      count_eq_zero right]
    rfl

/-- The magnitude of a double as a fraction, counted in the smallest one. -/
theorem num_mul_eq (h : b.IsNormal) : b.num * perOne = b.units * b.den := by
  have least := h.least
  have exponents : b.exponent.toNat + 1074
      = (b.exponent + 1074).toNat + (-b.exponent).toNat := by omega
  calc b.num * perOne = b.significand * (twoTo b.exponent.toNat * twoTo 1074) :=
        Nat.mul_assoc ..
    _ = b.significand * (twoTo (b.exponent + 1074).toNat * twoTo (-b.exponent).toNat) := by
        rw [← twoTo_add, exponents, twoTo_add]
    _ = b.units * b.den := (Nat.mul_assoc ..).symm

/-- The magnitude of a double is its count of the smallest one. -/
theorem num_div_den (h : b.IsNormal) : (b.num : Rat) / b.den = b.units / perOne := by
  have den : (b.den : Rat) ≠ 0 := Nat.cast_ne_zero.mpr b.den_pos.ne'
  have one : (perOne : Rat) ≠ 0 := Nat.cast_ne_zero.mpr perOne_pos.ne'
  rw [div_eq_div_iff den one]
  exact_mod_cast num_mul_eq h

/-- **The value of a double** is its count of the smallest one. -/
theorem toRat_eq (h : b.IsNormal) : b.toRat = b.count / perOne := by
  unfold toRat count
  rw [Rat.mkRat_eq_div]
  split
  · push_cast
    rw [neg_div, neg_div, ← num_div_den h]
    rfl
  · exact num_div_den h

end

end Binary

/-- **The number that a double is**; none for the infinities and for NaN. -/
def value? (x : Float) : Option Rat := (Binary.ofFloat? x).map Binary.toRat

/-- A double **is** a number. -/
abbrev Is (x : Float) (p : Rat) : Prop := value? x = some p

/-- An optional double is an optional number. -/
abbrev IsOptional : Option Float → Option Rat → Prop := Option.Rel Is

section

variable {x y : Float} {p q : Rat}

/-- A double that is a number is some count of the smallest one. -/
theorem count_of_is (h : Is x p) :
    ∃ b : Binary, b.IsNormal ∧ x.toModel.unpack = b.unpacked ∧ p = b.count / Binary.perOne := by
  obtain ⟨b, isExact, rfl⟩ := Option.map_eq_some_iff.mp h
  have normal := Binary.isNormal_of_ofFloat? isExact
  exact ⟨b, normal, Binary.unpack_of_ofFloat? isExact, Binary.toRat_eq normal⟩

/-- **Doubles are compared as numbers are.** -/
theorem lt_iff_of_is (hx : Is x p) (hy : Is y q) : x < y ↔ p < q := by
  obtain ⟨b, hb, unpack, rfl⟩ := count_of_is hx
  obtain ⟨c, hc, unpack', rfl⟩ := count_of_is hy
  rw [lt_iff, comparison, unpack, unpack', Binary.compare_unpacked hb hc, Option.some.injEq,
    compare_lt_iff_lt, div_lt_div_iff_of_pos_right (Nat.cast_pos.mpr Binary.perOne_pos),
    Int.cast_lt]

/-- **Doubles are equal when the numbers are.** -/
theorem beq_iff_of_is (hx : Is x p) (hy : Is y q) : (x == y) = true ↔ p = q := by
  obtain ⟨b, hb, unpack, rfl⟩ := count_of_is hx
  obtain ⟨c, hc, unpack', rfl⟩ := count_of_is hy
  rw [beq_iff, comparison, unpack, unpack', Binary.compare_unpacked hb hc, Option.some.injEq,
    compare_eq_iff_eq, div_left_inj' (Nat.cast_ne_zero.mpr Binary.perOne_pos.ne'), Int.cast_inj]

theorem is_zero : Is 0.0 0 := by decide +kernel

theorem eq_none_of_isOptional {r : Option Rat} (h : IsOptional none r) : r = none := by
  cases h
  rfl

/-- What is optional is missing on both sides or on neither. -/
theorem isOptional_cases {o : Option Float} {r : Option Rat} (h : IsOptional o r) :
    (o = none ∧ r = none) ∨ ∃ x p, o = some x ∧ r = some p ∧ Is x p := by
  cases h with
  | none => exact .inl ⟨rfl, rfl⟩
  | some h => exact .inr ⟨_, _, rfl, rfl, h⟩

/-- A finite double is a number. -/
theorem isSome_value? (h : x.isFinite = true) : (value? x).isSome = true := by
  rw [value?, Option.isSome_map]
  exact Binary.isSome_ofFloat? h

end

end Number

/-! ## Computations in doubles and in numbers -/

namespace Arith

/-! ### Exact arithmetic is arithmetic -/

theorem nonzero_iff {p : Rat} : nonzero p = true ↔ p ≠ 0 := by
  unfold nonzero
  show (!decide (p = 0)) = true ↔ p ≠ 0
  simp

theorem nonzero_eq_false_iff {p : Rat} : nonzero p = false ↔ p = 0 := by
  rw [Bool.eq_false_iff, ne_eq, nonzero_iff, not_not]

theorem cap_eq_min (p q : Rat) : cap p q = min p q := by
  show (if q < p then q else p) = min p q
  rw [min_comm, min_def_lt]

/-! ### Divisions that are not to be made -/

/-- Arithmetic in which only some numbers divide, and a division by any other one gives what one
likes. -/
@[reducible] def dividingBy {K : Type} [exact : Arith K] (divides : K → Bool) (other : K) :
    Arith K :=
  { exact with div := fun x y => if divides y then x / y else other }

/-! ### What is decided in doubles is decided in numbers -/

open Number (Is IsOptional)

variable {x y : Float} {p q : Rat} {o : Option Float} {r : Option Rat}

theorem nonzero_of_is (h : Is x p) : nonzero x = nonzero p := by
  have same := Number.beq_iff_of_is h Number.is_zero
  rw [Bool.eq_iff_iff, nonzero_iff]
  show (!(x == 0.0)) = true ↔ ¬ p = 0
  rw [← same]
  simp

theorem is_cap (hx : Is x p) (hy : Is y q) : Is (cap x y) (cap p q) := by
  have same := Number.lt_iff_of_is hy hx
  by_cases less : q < p
  · rw [show cap x y = y from if_pos (same.mpr less), show cap p q = q from if_pos less]
    exact hy
  · rw [show cap x y = x from if_neg (mt same.mp less), show cap p q = p from if_neg less]
    exact hx

theorem is_orElse (ho : IsOptional o r) (hy : Is y q) : Is (orElse o y) (orElse r q) := by
  cases ho with
  | none => exact hy
  | some h =>
    unfold orElse
    dsimp only
    rw [nonzero_of_is h]
    split
    · exact h
    · exact hy

end Arith

end OrderDesk

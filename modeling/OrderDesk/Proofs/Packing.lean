import OrderDesk.Proofs.Exact

/-!
# Packing doubles

A finite double is taken apart into a sign, a significand and an exponent, and whatever is computed
exactly is computed from these. Here they are put together again. Nothing is lost on the way
(`toFloat_of_ofFloat?`, `ofFloat?_toFloat`), except that beyond the greatest double there is only
infinity (`toFloat_of_large`), and the order of the magnitudes is the order of the doubles
(`toFloat_le`).
-/

namespace OrderDesk.Number.Binary

open Float.Model (UnpackedFloat Format)

/-- The double that a sign, a significand and a power of two make. Beyond the greatest double it is
infinite. -/
def toFloat (b : Binary) : Float := .ofModel (.pack b.unpacked)

/-- The pattern of a double, read as a whole number. -/
theorem toNat_packComponents (s : UnpackedFloat.Sign) (e : BitVec 11) (m : BitVec 52) :
    (UnpackedFloat.packComponents .binary64 s e m).toNat
      = s.toBitVec.toNat * twoTo 63 + e.toNat * twoTo 52 + m.toNat := by
  unfold UnpackedFloat.packComponents
  rw [BitVec.toNat_append, BitVec.toNat_append, ← Nat.shiftLeft_add_eq_or_of_lt m.isLt,
    ← Nat.shiftLeft_add_eq_or_of_lt e.isLt, Nat.shiftLeft_eq, Nat.shiftLeft_eq]
  show (s.toBitVec.toNat * 2 ^ 11 + e.toNat) * 2 ^ 52 + m.toNat
    = s.toBitVec.toNat * 2 ^ 63 + e.toNat * 2 ^ 52 + m.toNat
  ring

/-- What is read off a pattern. -/
theorem ofFloat?_of_pattern {x : Float} {s e m : Nat} (he : e < 2047) (hm : m < 2 ^ 52)
    (h : x.toBits.toNat = s * twoTo 63 + e * twoTo 52 + m) :
    ofFloat? x = some (if e = 0 then ⟨s == 1, m, -1074⟩ else ⟨s == 1, m + twoTo 52, e - 1075⟩) := by
  have bits : x.toBits.toNat = s * 2 ^ 63 + e * 2 ^ 52 + m := h
  have negative : x.toBits.toNat / twoTo 63 = s := by
    show _ / 2 ^ 63 = s
    omega
  have biased : x.toBits.toNat / twoTo 52 % 2048 = e := by
    show _ / 2 ^ 52 % 2048 = e
    omega
  have fraction : x.toBits.toNat % twoTo 52 = m := by
    show _ % 2 ^ 52 = m
    omega
  unfold ofFloat?
  dsimp only
  rw [negative, biased, fraction, if_neg (by simpa using he.ne)]
  by_cases least : e = 0
  · rw [if_pos (by simpa using least), if_pos least]
  · rw [if_neg (by simpa using least), if_neg least]
    rfl

/-- The exponent that is written in a pattern. -/
theorem biased_eq (e : Int) :
    e + Format.binary64.exponentBias + Format.binary64.mantissaBitsWithoutImplicit = e + 1075 := by
  show e + 1023 + 52 = e + 1075
  omega

/-- The pattern of a number that is not too large. -/
theorem toNat_pack_finite (s : UnpackedFloat.Sign) {m : Nat} {e : Int} (positive : 0 < m)
    (below : m < 2 ^ 53) (least : -1074 ≤ e) (small : e ≤ 971) :
    (UnpackedFloat.pack .binary64 (.finite s m e positive)).toNat
      = s.toBitVec.toNat * twoTo 63 + (if m < 2 ^ 52 then 0 else (e + 1075).toNat) * twoTo 52
        + m % 2 ^ 52 := by
  have digits : m.log2 + 1 = 53 ↔ ¬ m < 2 ^ 52 := by
    have lower : 2 ^ 52 ≤ m ↔ 52 ≤ m.log2 := (Nat.le_log2 positive.ne').symm
    have upper : m.log2 < 53 := (Nat.log2_lt positive.ne').mpr below
    omega
  unfold UnpackedFloat.pack
  dsimp only
  rw [biased_eq]
  show (if 2048 ≤ (e + 1075).toNat + 1 then _
    else if m.log2 + 1 = 53 then _ else _ : BitVec 64).toNat = _
  rw [if_neg (by omega)]
  by_cases subnormal : m < 2 ^ 52
  · rw [if_neg (by rw [digits, not_not]; exact subnormal), if_pos subnormal]
    exact toNat_packComponents s 0 (BitVec.ofNat 52 m)
  · rw [if_pos (digits.mpr subnormal), if_neg subnormal]
    refine (toNat_packComponents s _ (BitVec.ofNat 52 m)).trans ?_
    rw [BitVec.toNat_ofNat, Nat.mod_eq_of_lt (by omega)]
    rfl

variable {b c : Binary}

/-- **A double that is packed is read off again**, unless it is too large. -/
theorem ofFloat?_toFloat (h : b.IsNormal) (small : b.exponent ≤ 971) :
    ofFloat? b.toFloat = some b := by
  obtain ⟨below, least, leading⟩ := h
  have isNegative : (b.sign.toBitVec.toNat == 1) = b.negative := by
    unfold sign
    cases b.negative <;> rfl
  obtain ⟨negative, m, e⟩ := b
  dsimp only at below least leading small
  by_cases positive : 0 < m
  · have pattern : (toFloat ⟨negative, m, e⟩).toBits.toNat = _ :=
      (congrArg (fun u => (UnpackedFloat.pack .binary64 u).toNat) (unpacked_of_pos positive)).trans
        (toNat_pack_finite _ positive below least small)
    change ((if negative then UnpackedFloat.Sign.negative else .positive).toBitVec.toNat == 1)
      = negative at isNegative
    rw [ofFloat?_of_pattern (by split <;> omega) (Nat.mod_lt _ (by decide)) pattern, isNegative]
    by_cases subnormal : m < 2 ^ 52
    · have isLeast : e = -1074 := by omega
      rw [if_pos subnormal, if_pos rfl, Nat.mod_eq_of_lt subnormal, isLeast]
    · have exponent : (((e + 1075).toNat : Nat) : Int) - 1075 = e := by omega
      have fraction : m % 2 ^ 52 + twoTo 52 = m := by
        show m % 2 ^ 52 + 2 ^ 52 = m
        omega
      rw [if_neg subnormal, if_neg (by omega), fraction, exponent]
  · have zero : m = 0 := by omega
    have isLeast : e = -1074 := by omega
    subst zero isLeast
    have pattern : (toFloat ⟨negative, 0, -1074⟩).toBits.toNat
        = (sign ⟨negative, 0, -1074⟩).toBitVec.toNat * twoTo 63 + 0 * twoTo 52 + 0 :=
      toNat_packComponents _ 0 0
    rw [ofFloat?_of_pattern (by decide) (by decide) pattern, if_pos rfl, isNegative]

/-- A double read off a pattern is not too large. -/
theorem exponent_le_of_ofFloat? {x : Float} (h : ofFloat? x = some b) : b.exponent ≤ 971 := by
  unfold ofFloat? at h
  dsimp only at h
  split at h
  · cases h
  · case isFalse finite =>
    have small : x.toBits.toNat / twoTo 52 % 2048 ≠ 2047 := by simpa using finite
    split at h
    · cases h
      dsimp only
      omega
    · cases h
      dsimp only [Int.ofNat_eq_natCast]
      omega

/-- The pattern that a double is read off. -/
theorem toNat_toBits_of_ofFloat? {x : Float} (h : ofFloat? x = some b) :
    x.toBits.toNat = (if b.negative then 1 else 0) * 2 ^ 63
      + (if b.significand < 2 ^ 52 then 0 else (b.exponent + 1075).toNat) * 2 ^ 52
      + b.significand % 2 ^ 52 := by
  have bits : x.toBits.toNat < 2 ^ 64 := x.toBits.toBitVec.isLt
  have hidden : twoTo 52 = 2 ^ 52 := rfl
  have top : twoTo 63 = 2 ^ 63 := rfl
  unfold ofFloat? at h
  rw [hidden, top] at h
  dsimp only at h
  split at h
  · cases h
  split at h
  · case isTrue least =>
    cases h
    dsimp only
    have := beq_iff_eq.mp least
    rw [if_pos (Nat.mod_lt _ (by decide))]
    simp only [beq_iff_eq]
    split <;> omega
  · case isFalse normal =>
    cases h
    have : x.toBits.toNat / 2 ^ 52 % 2048 ≠ 0 := by simpa using normal
    dsimp only [Int.ofNat_eq_natCast]
    rw [if_neg (Nat.not_lt.mpr (Nat.le_add_left (2 ^ 52) _))]
    simp only [beq_iff_eq]
    split <;> omega

/-- **A double is what it was read off from.** -/
theorem toFloat_of_ofFloat? {x : Float} (h : ofFloat? x = some b) : b.toFloat = x := by
  have again := ofFloat?_toFloat (isNormal_of_ofFloat? h) (exponent_le_of_ofFloat? h)
  have pattern := (toNat_toBits_of_ofFloat? again).trans (toNat_toBits_of_ofFloat? h).symm
  have bits : b.toFloat.toModel.toBits = x.toModel.toBits := UInt64.toNat_inj.mp pattern
  obtain ⟨⟨p, _⟩⟩ := x
  exact congrArg Float.ofModel (Float.Model.mk.injEq .. ▸ bits)

/-! ## The order of packed doubles -/

/-- **Beyond the greatest double** it is infinite. -/
theorem toFloat_of_large (h : b.IsNormal) (nonneg : b.negative = false) (large : 971 < b.exponent) :
    b.toFloat = 1.0 / 0.0 := by
  obtain ⟨negative, m, e⟩ := b
  obtain ⟨below, least, leading⟩ := h
  dsimp only at nonneg below least leading large
  have positive : 0 < m := by omega
  have isInfinite : UnpackedFloat.pack .binary64 (.finite .positive m e positive)
      = UnpackedFloat.packedInfinity .binary64 .positive := by
    unfold UnpackedFloat.pack
    dsimp only
    rw [biased_eq]
    exact if_pos (show 2048 ≤ (e + 1075).toNat + 1 by omega)
  subst nonneg
  have unpacked : UnpackedFloat.pack .binary64 (unpacked ⟨false, m, e⟩)
      = UnpackedFloat.pack .binary64 (.finite .positive m e positive) :=
    congrArg _ (unpacked_of_pos positive)
  have bits : (toFloat ⟨false, m, e⟩).toModel.toBits = (1.0 / 0.0 : Float).toModel.toBits :=
    congrArg UInt64.ofBitVec (unpacked.trans isInfinite)
  exact congrArg Float.ofModel (Float.Model.mk.injEq .. ▸ bits)

theorem count_eq_units (nonneg : b.negative = false) : b.count = b.units := by
  rw [count, nonneg]
  rfl

/-- **The value of a packed double**, unless it is too large. -/
theorem is_toFloat (h : b.IsNormal) (nonneg : b.negative = false) (small : b.exponent ≤ 971) :
    Is b.toFloat (b.units / perOne) := by
  rw [Is, value?, ofFloat?_toFloat h small, Option.map_some, toRat_eq h, count_eq_units nonneg]
  rfl

/-- What is unpacked has a significand or is zero. -/
theorem unpacked_cases (b : Binary) :
    (∃ h, b.unpacked = .finite b.sign b.significand b.exponent h) ∨ b.unpacked = .zero b.sign := by
  by_cases positive : 0 < b.significand
  · exact .inl ⟨positive, dif_pos positive⟩
  · exact .inr (dif_neg positive)

/-- A packed double is a number, or infinite. -/
theorem isNaN_toFloat (b : Binary) : b.toFloat.isNaN = false := by
  refine isNaN_eq_false (unpack_pack_ne_nan fun isNaN => ?_)
  rcases b.unpacked_cases with ⟨_, finite⟩ | zero
  · cases finite.symm.trans isNaN
  · cases zero.symm.trans isNaN

theorem unpack_infinity : (1.0 / 0.0 : Float).toModel.unpack = .infinity .positive := rfl

/-- Nothing is above infinity. -/
theorem le_infinity {x : Float} (number : x.isNaN = false) : x ≤ 1.0 / 0.0 := by
  have isNumber : x.toModel.unpack ≠ .notANumber := fun isNaN =>
    Bool.false_ne_true (number.symm.trans (isNaN_iff.mpr isNaN))
  rw [le_iff, comparison, unpack_infinity]
  cases unpacked : x.toModel.unpack with
  | notANumber => exact absurd unpacked isNumber
  | infinity s => cases s <;> exact ⟨_, rfl, rfl⟩
  | zero s => exact ⟨_, rfl, rfl⟩
  | finite s m e positive => cases s <;> exact ⟨_, rfl, rfl⟩

/-- **Packing keeps the order.** -/
theorem toFloat_le (hb : b.IsNormal) (hc : c.IsNormal) (nonnegB : b.negative = false)
    (nonnegC : c.negative = false) (h : b.units ≤ c.units) : b.toFloat ≤ c.toFloat := by
  rcases lt_or_ge 971 c.exponent with large | smallC
  · rw [toFloat_of_large hc nonnegC large]
    exact le_infinity (isNaN_toFloat b)
  · have smallB : b.exponent ≤ 971 := by
      by_contra large
      exact absurd (units_lt_of_exponent_lt hc hb (by omega)) (not_lt.mpr h)
    refine le_of_not_lt (isNaN_toFloat c) (isNaN_toFloat b) fun greater => ?_
    have values := (lt_iff_of_is (is_toFloat hc nonnegC smallC)
      (is_toFloat hb nonnegB smallB)).mp greater
    rw [div_lt_div_iff_of_pos_right (Nat.cast_pos.mpr perOne_pos), Nat.cast_lt] at values
    exact absurd values (not_lt.mpr h)

/-- Doubles of one sign with one magnitude are the same. -/
theorem eq_of_units_eq (hb : b.IsNormal) (hc : c.IsNormal) (sign : b.negative = c.negative)
    (h : b.units = c.units) : b = c := by
  have exponents : b.exponent = c.exponent := by
    refine le_antisymm (not_lt.mp fun greater => ?_) (not_lt.mp fun less => ?_)
    · exact absurd (units_lt_of_exponent_lt hc hb greater) (h ▸ lt_irrefl _)
    · exact absurd (units_lt_of_exponent_lt hb hc less) (h ▸ lt_irrefl _)
  have significands : b.significand = c.significand := by
    unfold units at h
    rw [exponents] at h
    exact Nat.eq_of_mul_eq_mul_right (twoTo_pos _) h
  obtain ⟨_, _, _⟩ := b
  obtain ⟨_, _, _⟩ := c
  dsimp only at sign exponents significands
  rw [sign, exponents, significands]

section

variable {x : Float}

/-- A double that is read off is finite. -/
theorem isFinite_of_ofFloat? (h : ofFloat? x = some b) : x.isFinite = true := by
  show x.toModel.unpack.isFinite = true
  rw [unpack_of_ofFloat? h]
  rcases b.unpacked_cases with ⟨_, finite⟩ | zero
  · rw [finite]
    rfl
  · rw [zero]
    rfl

/-- A double above zero has a significand and no sign. -/
theorem of_pos (h : ofFloat? x = some b) (positive : 0.0 < x) :
    b.negative = false ∧ 0 < b.significand := by
  have is : Is x b.toRat := congrArg (Option.map toRat) h
  have above := (lt_iff_of_is is_zero is).mp positive
  rw [toRat_eq (isNormal_of_ofFloat? h), lt_div_iff₀ (Nat.cast_pos.mpr perOne_pos), zero_mul,
    Int.cast_pos] at above
  obtain ⟨negative, m, e⟩ := b
  by_cases some : 0 < m
  · cases negative with
    | false => exact ⟨rfl, some⟩
    | true => exact absurd (count_neg some) above.le.not_gt
  · rw [count_eq_zero some] at above
    exact absurd above (lt_irrefl 0)

/-- The magnitude of a double above zero is the double. -/
theorem abs_of_ofFloat? (nonneg : b.negative = false) (h : ofFloat? x = some b) : x.abs = x := by
  have same : UnpackedFloat.abs x.toModel.unpack = b.unpacked := by
    have plus : b.sign = .positive := by rw [Binary.sign, nonneg]; rfl
    rw [unpack_of_ofFloat? h]
    rcases b.unpacked_cases with ⟨_, finite⟩ | zero
    · rw [finite, plus]
      rfl
    · rw [zero, plus]
      rfl
  calc x.abs = .ofModel (.pack (.abs x.toModel.unpack)) := rfl
    _ = b.toFloat := by rw [same]; rfl
    _ = x := toFloat_of_ofFloat? h

end

/-- **Equal doubles are the same** when neither is below zero and one is not too large. -/
theorem eq_of_beq (hb : b.IsNormal) (hc : c.IsNormal) (nonnegB : b.negative = false)
    (nonnegC : c.negative = false) (small : c.exponent ≤ 971)
    (equal : (b.toFloat == c.toFloat) = true) : b = c := by
  have isC := is_toFloat hc nonnegC small
  have smallB : b.exponent ≤ 971 := by
    by_contra large
    rw [toFloat_of_large hb nonnegB (not_le.mp large), beq_iff, comparison] at equal
    obtain ⟨d, -, unpacked, -⟩ := count_of_is isC
    rw [unpack_infinity, unpacked] at equal
    rcases d.unpacked_cases with ⟨_, finite⟩ | zero
    · rw [finite] at equal
      cases equal
    · rw [zero] at equal
      cases equal
  have isB := is_toFloat hb nonnegB smallB
  have values := (beq_iff_of_is isB isC).mp equal
  rw [div_left_inj' (Nat.cast_ne_zero.mpr perOne_pos.ne'), Nat.cast_inj] at values
  exact eq_of_units_eq hb hc (nonnegB.trans nonnegC.symm) values

/-- Doubles above zero are the same when neither is above the other. -/
theorem eq_of_le_of_le {x y : Float} (hb : ofFloat? x = some b) (hc : ofFloat? y = some c)
    (positiveX : 0.0 < x) (positiveY : 0.0 < y) (le : x ≤ y) (ge : y ≤ x) : x = y := by
  have normalB := isNormal_of_ofFloat? hb
  have normalC := isNormal_of_ofFloat? hc
  have nonnegB := (of_pos hb positiveX).1
  have nonnegC := (of_pos hc positiveY).1
  have smallC := exponent_le_of_ofFloat? hc
  have isB := is_toFloat normalB nonnegB (exponent_le_of_ofFloat? hb)
  have isC := is_toFloat normalC nonnegC smallC
  rw [← toFloat_of_ofFloat? hb, ← toFloat_of_ofFloat? hc] at le ge ⊢
  have same := le_antisymm
    (not_lt.mp fun less => not_lt_of_le le ((lt_iff_of_is isC isB).mpr less))
    (not_lt.mp fun less => not_lt_of_le ge ((lt_iff_of_is isB isC).mpr less))
  exact congrArg toFloat
    (eq_of_beq normalB normalC nonnegB nonnegC smallC ((beq_iff_of_is isB isC).mpr same))

end OrderDesk.Number.Binary

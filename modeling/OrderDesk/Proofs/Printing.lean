import OrderDesk.Proofs.Decimals

/-!
# Printed doubles read back

A double is printed as the decimal with the fewest digits that reads as the double. Whether a
decimal does is tried out, for one digit, two digits and so on up to seventeen, and on each grid
only the two neighbours of the exact value are tried. Nothing in this says that there is such a
decimal, but with seventeen digits there always is. Neighbours on that grid are closer together than
doubles are, so the nearer one of the two is much closer to the double than any other double is to
it (`nearestDecimal_of_close`).

What is printed is therefore a decimal of few digits that reads as the double
(`Decimal.isPlain_of_ofFloat?`), and since reading keeps the order, printing does
(`Decimal.toRat_mono`).
-/

namespace OrderDesk.Number

open Binary (perOne perOne_pos)

/-! ## The double that a quotient is close to -/

namespace Binary

variable {b c : Binary}

/-- **Doubles are apart**: two of them differ by no less than the last of the digits that the
greater one has. -/
theorem units_apart (hb : b.IsNormal) (hc : c.IsNormal) (h : b.units < c.units) :
    c.units + 2 ^ 53 * b.units ≤ 2 ^ 53 * c.units := by
  rcases lt_or_ge b.exponent c.exponent with less | notLess
  · -- the greater one has its leading digit beyond those of the other
    have leading : 2 ^ 52 ≤ c.significand :=
      hc.leading.resolve_right (by have := hb.least; omega)
    have reaches : 2 ^ 53 * twoTo (b.exponent + 1074).toNat ≤ c.units :=
      (digits_le_leading (by have := hb.least; omega)).trans (Nat.mul_le_mul_right _ leading)
    have below : b.units ≤ (2 ^ 53 - 1) * twoTo (b.exponent + 1074).toNat :=
      Nat.mul_le_mul_right _ (Nat.le_sub_one_of_lt hb.below)
    generalize twoTo (b.exponent + 1074).toNat = t at *
    omega
  · -- both are multiples of the last digit of the greater one
    obtain ⟨k, apart⟩ : ∃ k, (b.exponent + 1074).toNat = (c.exponent + 1074).toNat + k :=
      ⟨(b.exponent - c.exponent).toNat, by have := hc.least; omega⟩
    have multiple : b.units = b.significand * twoTo k * twoTo (c.exponent + 1074).toNat := by
      rw [units, apart, twoTo_add]
      ring
    have small : c.units ≤ 2 ^ 53 * twoTo (c.exponent + 1074).toNat :=
      Nat.mul_le_mul_right _ hc.below.le
    have next : b.units + twoTo (c.exponent + 1074).toNat ≤ c.units := by
      rw [multiple] at h ⊢
      rw [← Nat.succ_mul]
      exact Nat.mul_le_mul_right _ (Nat.lt_of_mul_lt_mul_right h)
    omega

section

variable {num den : Nat}

/-- Rounding misses a quotient by half of the last digit at most. -/
theorem ofQuotient_within_half (hd : 0 < den) :
    |((ofQuotient num den).units : Rat) - num / den| ≤ twoTo (excess num den) / 2 := by
  have den' : (0 : Rat) < den := Nat.cast_pos.mpr hd
  have isQuotient : (num : Rat) = num / den * den := (div_mul_cancel₀ _ den'.ne').symm
  obtain ⟨above, below⟩ := nearest_within_half num (Nat.mul_pos hd (twoTo_pos (excess num den)))
  rw [units_ofQuotient hd]
  generalize nearest num (den * twoTo (excess num den)) = n at *
  generalize twoTo (excess num den) = t at *
  generalize (num : Rat) / den = x at *
  have above' : (2 * num : Rat) ≤ 2 * (den * t * n) + den * t := by exact_mod_cast above
  have below' : (2 * (den * t * n) : Rat) ≤ 2 * num + den * t := by exact_mod_cast below
  rw [isQuotient] at above' below'
  have upper : 2 * x ≤ 2 * (n * t) + t := by
    refine le_of_mul_le_mul_right ?_ den'
    linarith
  have lower : 2 * (n * t) ≤ 2 * x + t := by
    refine le_of_mul_le_mul_right ?_ den'
    linarith
  rw [abs_le, Nat.cast_mul]
  constructor <;> linarith

/-- The nearest double is not further from a quotient than any multiple of its last digit. -/
theorem ofQuotient_nearest_multiple (hd : 0 < den) (m : Nat) :
    |((ofQuotient num den).units : Rat) - num / den|
      ≤ |((m * twoTo (excess num den) : Nat) : Rat) - num / den| := by
  have half := @ofQuotient_within_half num den hd
  have isMultiple := @units_ofQuotient num den hd
  generalize nearest num (den * twoTo (excess num den)) = n at isMultiple
  generalize twoTo (excess num den) = t at *
  rw [isMultiple] at half ⊢
  rcases eq_or_ne m n with rfl | differ
  · exact le_rfl
  · -- two multiples differ by a whole digit, and the nearest one is missed by half of it at most
    have apart : (t : Rat) ≤ |((m * t : Nat) : Rat) - (n * t : Nat)| := by
      have one : (1 : Rat) ≤ |(m : Rat) - n| := by
        exact_mod_cast Int.one_le_abs (show (m : Int) - n ≠ 0 by omega)
      have nonneg : (0 : Rat) ≤ t := Nat.cast_nonneg t
      rw [Nat.cast_mul, Nat.cast_mul, ← sub_mul, abs_mul, abs_of_nonneg nonneg]
      exact le_mul_of_one_le_left nonneg one
    have triangle := abs_sub_le ((m * t : Nat) : Rat) (num / den) (n * t : Nat)
    rw [abs_sub_comm (num / den : Rat)] at triangle
    linarith

/-- **The nearest double** is not further from a quotient than any other. -/
theorem ofQuotient_nearest (hd : 0 < den) (hb : b.IsNormal) :
    |((ofQuotient num den).units : Rat) - num / den| ≤ |(b.units : Rat) - num / den| := by
  rcases Nat.lt_or_ge (b.exponent + 1074).toNat (excess num den) with fine | coarse
  · -- a double on a finer grid is below the least one that has as many digits
    have den' : (0 : Rat) < den := Nat.cast_pos.mpr hd
    have some : 0 < excess num den := Nat.zero_lt_of_lt fine
    have least : ((2 ^ 52 * twoTo (excess num den) : Nat) : Rat) ≤ num / den := by
      rw [le_div_iff₀ den']
      have := le_of_excess some
      rw [twoTo_add, Nat.mul_comm] at this
      exact_mod_cast this
    have below : b.units ≤ 2 ^ 52 * twoTo (excess num den) :=
      (Nat.mul_le_mul_right _ hb.below.le).trans (digits_le_leading fine)
    have below' : (b.units : Rat) ≤ (2 ^ 52 * twoTo (excess num den) : Nat) := Nat.cast_le.mpr below
    refine (ofQuotient_nearest_multiple hd (2 ^ 52)).trans ?_
    rw [abs_of_nonpos (sub_nonpos.mpr least), abs_of_nonpos (sub_nonpos.mpr (below'.trans least))]
    exact neg_le_neg (sub_le_sub_right below' _)
  · obtain ⟨k, further⟩ := Nat.exists_eq_add_of_le' coarse
    have multiple : b.units = b.significand * twoTo k * twoTo (excess num den) := by
      rw [units, further, twoTo_add, Nat.mul_assoc]
    rw [multiple]
    exact ofQuotient_nearest_multiple hd _

/-- **A quotient that is close to a double** is nearest to it. -/
theorem ofQuotient_of_close (hd : 0 < den) (hb : b.IsNormal) (nonneg : b.negative = false)
    (close : 2 ^ 54 * |(b.units : Rat) - num / den| < b.units) : ofQuotient num den = b := by
  have near := @ofQuotient_nearest b num den hd hb
  have normal := @isNormal_ofQuotient num den hd
  refine eq_of_units_eq normal hb ((ofQuotient_negative _ _).trans nonneg.symm) ?_
  by_contra differ
  have triangle := abs_sub_le ((ofQuotient num den).units : Rat) (num / den) b.units
  rw [abs_sub_comm (num / den : Rat)] at triangle
  have apart : (b.units : Rat) ≤ 2 ^ 53 * |((ofQuotient num den).units : Rat) - b.units| := by
    rcases Nat.lt_or_gt_of_ne differ with less | greater
    · have gap := units_apart normal hb less
      have gap' : (b.units : Rat) + 2 ^ 53 * (ofQuotient num den).units ≤ 2 ^ 53 * b.units := by
        exact_mod_cast gap
      have := neg_le_abs (((ofQuotient num den).units : Rat) - b.units)
      linarith
    · have gap := units_apart hb normal greater
      have gap' : ((ofQuotient num den).units : Rat) + 2 ^ 53 * b.units
          ≤ 2 ^ 53 * (ofQuotient num den).units := by
        exact_mod_cast gap
      have greater' : (b.units : Rat) ≤ (ofQuotient num den).units := Nat.cast_le.mpr greater.le
      have := le_abs_self (((ofQuotient num den).units : Rat) - b.units)
      linarith
  linarith

end

end Binary

/-- **A decimal that is close to a double** is read as it. -/
theorem nearestDecimal_of_close {b : Binary} {c : Nat} {e : Int} (hb : b.IsNormal)
    (nonneg : b.negative = false)
    (close : 2 ^ 54 * |(b.units / perOne : Rat) - c * 10 ^ e| < b.units / perOne) :
    nearestDecimal c e = b := by
  have one : (0 : Rat) < perOne := Nat.cast_pos.mpr perOne_pos
  have quotient : ((c * tenTo e.toNat * perOne : Nat) : Rat) / tenTo (-e).toNat
      = c * 10 ^ e * perOne := by
    rw [ten_zpow, Nat.cast_mul, Nat.cast_mul]
    ring
  refine Binary.ofQuotient_of_close (tenTo_pos _) hb nonneg ?_
  rw [quotient]
  have scaled : (b.units : Rat) - c * 10 ^ e * perOne
      = ((b.units / perOne : Rat) - c * 10 ^ e) * perOne := by
    rw [sub_mul, div_mul_cancel₀ _ one.ne']
  rw [scaled, abs_mul, abs_of_pos one, ← mul_assoc]
  exact (lt_div_iff₀ one).mp close

namespace Decimal

section

variable {num den digits c c' low : Nat} {e e' : Int} {target : Float}

/-- **The grid around a quotient**: the quotient lies between two neighbours on it, which have no
more than so many digits, and the grid is as fine as these digits allow. -/
theorem gridBelow_spec (hn : 0 < num) (hd : 0 < den) (grid : gridBelow num den digits = (low, e)) :
    (low * 10 ^ e : Rat) ≤ num / den ∧ (num / den : Rat) < (low + 1) * 10 ^ e
      ∧ low < tenTo digits ∧ (10 : Rat) ^ e * 10 ^ digits ≤ 10 * (num / den) := by
  obtain ⟨isLow, isExponent⟩ := Prod.mk.inj grid
  obtain ⟨below, above⟩ := scale_spec hn hd
  have ten : (10 : Rat) ≠ 0 := by norm_num
  have power := ten_zpow_pos e
  have split : (10 : Rat) ^ scale num den = 10 ^ e * 10 ^ digits := by
    rw [← isExponent, ← zpow_natCast, ← zpow_add₀ ten]
    exact congrArg _ (Int.sub_add_cancel ..).symm
  have isFloor : low = ⌊(num / den : Rat) / 10 ^ e⌋₊ := by
    rw [← scaled_div, Nat.floor_div_eq_div, ← isLow, isExponent]
  have positive : (0 : Rat) ≤ num / den / 10 ^ e := by positivity
  have lower : (low : Rat) ≤ num / den / 10 ^ e := isFloor ▸ Nat.floor_le positive
  refine ⟨(le_div_iff₀ power).mp lower, (div_lt_iff₀ power).mp ?_, ?_, ?_⟩
  · exact isFloor ▸ Nat.lt_floor_add_one _
  · have upper : (low : Rat) < tenTo digits := by
      rw [cast_tenTo]
      refine lower.trans_lt ((div_lt_iff₀' power).mpr ?_)
      rwa [← split]
    exact Nat.cast_lt.mp upper
  · calc (10 : Rat) ^ e * 10 ^ digits = 10 * 10 ^ (scale num den - 1) := by
          rw [← split, zpow_sub₀ ten, zpow_one, mul_div_cancel₀ _ ten]
      _ ≤ 10 * (num / den) := mul_le_mul_of_nonneg_left above (by norm_num)

/-- One of the two neighbours is no further away than half of the grid. -/
theorem exists_close (hn : 0 < num) (hd : 0 < den) (grid : gridBelow num den digits = (low, e)) :
    ∃ c, (c = low ∨ c = low + 1) ∧ 2 * |(num / den : Rat) - c * 10 ^ e| ≤ 10 ^ e := by
  obtain ⟨above, below, -, -⟩ := gridBelow_spec hn hd grid
  rcases le_total (2 * (num / den : Rat)) ((2 * low + 1) * 10 ^ e) with less | more
  · refine ⟨low, .inl rfl, ?_⟩
    rw [abs_of_nonneg (sub_nonneg.mpr above)]
    linarith
  · refine ⟨low + 1, .inr rfl, ?_⟩
    push_cast
    rw [abs_of_nonpos (sub_nonpos.mpr below.le)]
    linarith

/-- A decimal with so many digits reads as a number, when it is one of the two neighbours. -/
theorem of_withDigits? (grid : gridBelow num den digits = (low, e))
    (h : withDigits? target num den digits = some (c, e')) :
    (c = low ∨ c = low + 1) ∧ e' = e ∧ (magnitudeToFloat c e == target) = true := by
  unfold withDigits? at h
  rw [grid] at h
  dsimp only at h
  cases isLow : magnitudeToFloat low e == target <;>
    cases isNext : magnitudeToFloat (low + 1) e == target <;> rw [isLow, isNext] at h <;>
    dsimp only at h
  · cases h
  · cases h
    exact ⟨.inr rfl, rfl, isNext⟩
  · cases h
    exact ⟨.inl rfl, rfl, isLow⟩
  · split_ifs at h <;> cases h
    · exact ⟨.inl rfl, rfl, isLow⟩
    · exact ⟨.inr rfl, rfl, isNext⟩
    · exact ⟨.inl rfl, rfl, isLow⟩
    · exact ⟨.inr rfl, rfl, isNext⟩

/-- There is one with so many digits, when either of the neighbours reads as the number. -/
theorem isSome_withDigits? (grid : gridBelow num den digits = (low, e))
    (neighbour : c = low ∨ c = low + 1) (reads : (magnitudeToFloat c e == target) = true) :
    (withDigits? target num den digits).isSome := by
  unfold withDigits?
  rw [grid]
  dsimp only
  cases isLow : magnitudeToFloat low e == target <;>
    cases isNext : magnitudeToFloat (low + 1) e == target <;> dsimp only
  · rcases neighbour with rfl | rfl
    · exact absurd reads (by rw [isLow]; decide)
    · exact absurd reads (by rw [isNext]; decide)
  · rfl
  · rfl
  · split_ifs <;> rfl

/-- Taking zeros off the end does not change the value. -/
theorem stripZeros_spec (fuel : Nat) (h : stripZeros fuel c e = (c', e')) :
    (c' : Rat) * 10 ^ e' = c * 10 ^ e ∧ c' ≤ c := by
  induction fuel generalizing c e with
  | zero =>
    obtain ⟨rfl, rfl⟩ := Prod.mk.inj h
    exact ⟨rfl, le_rfl⟩
  | succ fuel ih =>
    unfold stripZeros at h
    split at h
    · case isTrue zeros =>
      obtain ⟨same, less⟩ := ih h
      have even : c % 10 = 0 := by simp_all
      obtain ⟨k, rfl⟩ := Nat.dvd_of_mod_eq_zero even
      rw [Nat.mul_div_cancel_left k (by decide)] at same less
      refine ⟨?_, by omega⟩
      rw [same, zpow_add_one₀ (by norm_num)]
      push_cast
      ring
    · obtain ⟨rfl, rfl⟩ := Prod.mk.inj h
      exact ⟨rfl, le_rfl⟩

/-- **The shortest decimal of a double** reads as the double, and has seventeen digits at most. -/
theorem shortest_spec {b : Binary} (hb : b.IsNormal) (nonneg : b.negative = false)
    (small : b.exponent ≤ 971) (positive : 0 < b.significand)
    (h : shortest b.toFloat b.num b.den = (c, e)) :
    0 < c ∧ c ≤ tenTo 17 ∧ nearestDecimal c e = b := by
  have hn : 0 < b.num := Nat.mul_pos positive (twoTo_pos _)
  have value := Binary.num_div_den hb
  have above : (0 : Rat) < b.num / b.den :=
    div_pos (Nat.cast_pos.mpr hn) (Nat.cast_pos.mpr b.den_pos)
  -- with seventeen digits there is one
  have enough : (withDigits? b.toFloat b.num b.den 17).isSome := by
    obtain ⟨low, f, grid⟩ : ∃ low f, gridBelow b.num b.den 17 = (low, f) := ⟨_, _, rfl⟩
    obtain ⟨-, -, -, fine⟩ := gridBelow_spec hn b.den_pos grid
    obtain ⟨n, neighbour, half⟩ := exists_close hn b.den_pos grid
    have close : nearestDecimal n f = b := by
      refine nearestDecimal_of_close hb nonneg ?_
      rw [← value]
      linarith
    refine isSome_withDigits? grid neighbour ?_
    rw [magnitudeToFloat_eq, close]
    exact (beq_iff_of_is (Binary.is_toFloat hb nonneg small)
      (Binary.is_toFloat hb nonneg small)).mpr rfl
  unfold shortest at h
  cases found : (List.range 17).findSome? fun i => withDigits? b.toFloat b.num b.den (i + 1) with
  | none =>
    have none := List.findSome?_eq_none_iff.mp found 16 (by decide)
    rw [none] at enough
    cases enough
  | some d =>
    obtain ⟨n, f⟩ := d
    rw [found] at h
    dsimp only at h
    obtain ⟨i, mem, isFirst⟩ := List.exists_of_findSome?_eq_some found
    obtain ⟨low, g, grid⟩ : ∃ low g, gridBelow b.num b.den (i + 1) = (low, g) := ⟨_, _, rfl⟩
    obtain ⟨neighbour, rfl, reads⟩ := of_withDigits? grid isFirst
    obtain ⟨-, -, few, -⟩ := gridBelow_spec hn b.den_pos grid
    have digits : tenTo (i + 1) ≤ tenTo 17 := tenTo_le_tenTo (List.mem_range.mp mem)
    obtain ⟨same, less⟩ := stripZeros_spec 20 h
    have isNearest : nearestDecimal n f = b := by
      rw [magnitudeToFloat_eq] at reads
      exact Binary.eq_of_beq (isNormal_nearestDecimal _ _) hb (nearestDecimal_negative _ _) nonneg
        small reads
    rw [← nearestDecimal_congr same] at isNearest
    refine ⟨Nat.pos_of_ne_zero ?_, by omega, isNearest⟩
    rintro rfl
    rw [nearestDecimal_zero] at isNearest
    exact absurd (isNearest ▸ positive) (lt_irrefl 0)

end

section

variable {v w : Decimal} {x y : Float}

/-- A decimal of few digits, as a venue's step and as a printed double are. -/
structure IsPlain (d : Decimal) : Prop where
  negative : d.negative = false
  coefficient : 0 < d.coefficient
  short : IsShort d.coefficient

theorem IsPlain.toRat_pos (h : v.IsPlain) : 0 < v.toRat := by
  rw [toRat_of_nonneg h.negative]
  exact mul_pos (Nat.cast_pos.mpr h.coefficient) (ten_zpow_pos _)

/-- A finite double is printed. -/
theorem isSome_ofFloat? (finite : x.isFinite = true) : (ofFloat? x).isSome = true := by
  unfold ofFloat?
  rw [Option.isSome_map]
  exact Binary.isSome_ofFloat? finite

/-- **What a double is printed as**: a decimal of few digits that reads as the double. -/
theorem isPlain_of_ofFloat? (positive : 0.0 < x) (h : ofFloat? x = some v) :
    v.IsPlain ∧ v.toFloat = x := by
  obtain ⟨b, isExact, isPrinted⟩ := Option.map_eq_some_iff.mp h
  obtain ⟨nonneg, some⟩ := Binary.of_pos isExact positive
  obtain ⟨c, e, isShortest⟩ : ∃ c e, shortest b.toFloat b.num b.den = (c, e) := ⟨_, _, rfl⟩
  obtain ⟨pos, few, isNearest⟩ := shortest_spec (Binary.isNormal_of_ofFloat? isExact) nonneg
    (Binary.exponent_le_of_ofFloat? isExact) some isShortest
  have isDouble := Binary.toFloat_of_ofFloat? isExact
  rw [if_neg (by simpa using some.ne'), Binary.abs_of_ofFloat? nonneg isExact, ← isDouble,
    isShortest, nonneg] at isPrinted
  subst isPrinted
  refine ⟨⟨rfl, pos, .of_le few⟩, ?_⟩
  rw [toFloat_of_nonneg rfl, isNearest, isDouble]

/-- **A larger double is not printed as a smaller decimal.** -/
theorem toRat_mono (positiveX : 0.0 < x) (positiveY : 0.0 < y) (le : x ≤ y)
    (printedX : ofFloat? x = some v) (printedY : ofFloat? y = some w) : v.toRat ≤ w.toRat := by
  by_contra greater
  obtain ⟨plainX, readsX⟩ := isPlain_of_ofFloat? positiveX printedX
  obtain ⟨plainY, readsY⟩ := isPlain_of_ofFloat? positiveY printedY
  have ge := toFloat_le plainY.negative plainX.negative (not_le.mp greater).le
  rw [readsX, readsY] at ge
  obtain ⟨b, exactX, -⟩ := Option.map_eq_some_iff.mp printedX
  obtain ⟨c, exactY, -⟩ := Option.map_eq_some_iff.mp printedY
  obtain rfl := Binary.eq_of_le_of_le exactX exactY positiveX positiveY le ge
  obtain rfl := Option.some.inj (printedX.symm.trans printedY)
  exact greater le_rfl

end

end Decimal

end OrderDesk.Number

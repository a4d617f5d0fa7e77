import Mathlib.Algebra.Order.Floor.Semifield
import Mathlib.Data.Rat.Floor
import OrderDesk.Proofs.Packing
import OrderDesk.Proofs.Rounding

/-!
# The nearest double

Multiplying and dividing doubles, and reading decimals, all end in the same way: a significand of
many digits is cut down to fifty-three. The digits that are dropped are not remembered. Of them two
are kept, one that tells whether they come to a half and one that tells whether anything is left
beside, and these two are enough to round correctly (`Represents`). They are right after every digit
that is dropped if they were right before, and however often digits are dropped the result is the
quotient itself, rounded once (`Represents.roundedMantissa`).

So each of the operations arrives at the double nearest to an exact quotient, the same quotient for
the same value (`ofQuotient`). Rounding keeps the order (`ofQuotient_mono`), and with it everything
does that is rounded so.
-/

namespace OrderDesk.Number

open Float.Model (UnpackedFloat Format totalExponent)
open Float.Model.UnpackedFloat (ExtendedMantissa)

/-! ## Digits that are dropped -/

/-- **A significand with its two extra digits stands for a quotient**: the first digit says whether
the rest is at least a half, the second whether anything but zero or a half is left. -/
structure Represents (em : ExtendedMantissa) (num den : Nat) : Prop where
  mantissa : em.mantissa = num / den
  roundBit : em.roundBit = true ↔ den ≤ 2 * (num % den)
  stickyBit : em.stickyBit = true ↔ 2 * (num % den) ≠ 0 ∧ 2 * (num % den) ≠ den

section

variable {em : ExtendedMantissa} {num den : Nat}

/-- A quotient with what is left of it. -/
theorem represents_of_fraction {q r d : Nat} (h : r < d) :
    Represents (.ofMantissaAndAccuracy q (UnpackedFloat.accuracyOfFraction r d)) (q * d + r) d := by
  have whole : (q * d + r) / d = q := by
    rw [Nat.mul_comm, Nat.mul_add_div (by omega), Nat.div_eq_of_lt h, Nat.add_zero]
  have rest : (q * d + r) % d = r := by
    rw [Nat.mul_comm, Nat.mul_add_mod, Nat.mod_eq_of_lt h]
  have stands {round sticky : Bool} (isRound : round = true ↔ d ≤ 2 * r)
      (isSticky : sticky = true ↔ 2 * r ≠ 0 ∧ 2 * r ≠ d) :
      Represents ⟨q, round, sticky⟩ (q * d + r) d :=
    ⟨whole.symm, by rwa [rest], by rwa [rest]⟩
  have no : ¬ false = true := Bool.false_ne_true
  unfold UnpackedFloat.accuracyOfFraction
  split_ifs with none
  · exact stands (iff_of_false no (by omega)) (iff_of_false no (by omega))
  · rcases lt_trichotomy (2 * r) d with less | half | more
    · rw [compare_lt_iff_lt.mpr less]
      exact stands (iff_of_false no (by omega)) (iff_of_true rfl (by omega))
    · rw [compare_eq_iff_eq.mpr half]
      exact stands (iff_of_true rfl (by omega)) (iff_of_false no (by omega))
    · rw [compare_gt_iff_gt.mpr more]
      exact stands (iff_of_true rfl (by omega)) (iff_of_true rfl (by omega))

/-- **Dropping a digit** halves the quotient. -/
theorem Represents.shiftRightOne (h : Represents em num den) (hd : 0 < den) :
    Represents em.shiftRightOne num (den * 2) := by
  obtain ⟨m, round, sticky⟩ := em
  obtain ⟨isMantissa, isRound, isSticky⟩ := h
  have small := Nat.mod_lt num hd
  have rest : num % (den * 2) = num % den + den * (num / den % 2) := Nat.mod_mul
  dsimp only at isMantissa isRound isSticky
  refine ⟨?_, ?_, ?_⟩
  · rw [← Nat.div_div_eq_div_mul, ← isMantissa]
    rfl
  · show (m % 2 != 0) = true ↔ _
    rw [rest, ← isMantissa, bne_iff_ne]
    rcases Nat.mod_two_eq_zero_or_one m with even | odd
    · rw [even, Nat.mul_zero]
      omega
    · rw [odd, Nat.mul_one]
      omega
  · show (round || sticky) = true ↔ _
    rw [rest, ← isMantissa, Bool.or_eq_true, isRound, isSticky]
    rcases Nat.mod_two_eq_zero_or_one m with even | odd
    · rw [even, Nat.mul_zero]
      omega
    · rw [odd, Nat.mul_one]
      omega

/-- Dropping digits divides the quotient by a power of two. -/
theorem Represents.shiftRight (h : Represents em num den) (hd : 0 < den) (n : Nat) :
    Represents (em >>> n) num (den * twoTo n) := by
  show Represents (n.repeat ExtendedMantissa.shiftRightOne em) _ _
  induction n with
  | zero =>
    rw [show den * twoTo 0 = den from Nat.mul_one den]
    exact h
  | succ n ih =>
    rw [Nat.repeat, twoTo_succ, ← Nat.mul_assoc]
    exact ih.shiftRightOne (Nat.mul_pos hd (twoTo_pos n))

/-- **The significand is rounded** as quotients are. -/
theorem Represents.roundedMantissa (h : Represents em num den) (hd : 0 < den) :
    em.roundedMantissa = nearest num den := by
  obtain ⟨m, round, sticky⟩ := em
  obtain ⟨isMantissa, isRound, isSticky⟩ := h
  have small := Nat.mod_lt num hd
  dsimp only at isMantissa isRound isSticky
  unfold nearest
  dsimp only
  rw [← isMantissa]
  generalize num % den = r at *
  cases round <;> cases sticky <;>
    simp only [Bool.false_eq_true, false_iff, true_iff] at isRound isSticky
  · show m = _
    rw [if_pos (by omega)]
  · show m = _
    rw [if_pos (by omega)]
  · show m + m % 2 = _
    rw [if_neg (by omega), if_neg (by omega)]
    simp only [beq_iff_eq]
    split <;> omega
  · show m + 1 = _
    rw [if_neg (by omega), if_pos (by omega)]

end

/-! ## The nearest double -/

theorem twoTo_le_twoTo {i j : Nat} (h : i ≤ j) : twoTo i ≤ twoTo j :=
  Nat.pow_le_pow_right (by decide) h

/-- All digits on a finer grid come to no more than the leading one on a coarser grid. -/
theorem digits_le_leading {i j : Nat} (h : i < j) : 2 ^ 53 * twoTo i ≤ 2 ^ 52 * twoTo j := by
  calc 2 ^ 53 * twoTo i = 2 ^ 52 * twoTo (i + 1) := by rw [twoTo_succ]; ring
    _ ≤ 2 ^ 52 * twoTo j := Nat.mul_le_mul_left _ (twoTo_le_twoTo h)

/-- How many binary digits the whole part of a quotient has beyond those that a double keeps. -/
def excess (num den : Nat) : Nat := (num / den).log2 - 52

/-- **The double nearest to a quotient**, both counted in the smallest double; a half goes to the
even neighbour. -/
def Binary.ofQuotient (num den : Nat) : Binary :=
  let k := excess num den
  let m := nearest num (den * twoTo k)
  if m < 2 ^ 53 then ⟨false, m, k - 1074⟩ else ⟨false, 2 ^ 52, k - 1073⟩

section

variable {num den : Nat}

/-- What says how many digits are in excess. -/
theorem excess_eq {k : Nat} (hd : 0 < den) (below : num < den * twoTo (53 + k))
    (leading : 0 < k → den * twoTo (52 + k) ≤ num) : excess num den = k := by
  have upper : num / den < 2 ^ (53 + k) := Nat.div_lt_of_lt_mul below
  have lower : 0 < k → 2 ^ (52 + k) ≤ num / den := fun pos =>
    (Nat.le_div_iff_mul_le hd).mpr (Nat.mul_comm den _ ▸ leading pos)
  unfold excess
  by_cases zero : num / den = 0
  · rw [zero] at lower ⊢
    have none : k = 0 := by
      by_contra some
      exact absurd (lower (Nat.pos_of_ne_zero some)) (Nat.not_le.mpr (twoTo_pos _))
    rw [none]
    decide
  · have digits := (Nat.log2_lt zero).mpr upper
    have most : 0 < k → 52 + k ≤ (num / den).log2 := fun pos =>
      (Nat.le_log2 zero).mpr (lower pos)
    omega

theorem lt_of_excess (hd : 0 < den) : num < den * twoTo (53 + excess num den) := by
  have upper : num / den < 2 ^ (53 + excess num den) :=
    Nat.lt_log2_self.trans_le (Nat.pow_le_pow_right (by decide) (by unfold excess; omega))
  rw [Nat.mul_comm]
  exact (Nat.div_lt_iff_lt_mul hd).mp upper

theorem le_of_excess (pos : 0 < excess num den) :
    den * twoTo (52 + excess num den) ≤ num := by
  have some : num / den ≠ 0 := by
    intro zero
    rw [excess, zero] at pos
    exact absurd pos (by decide)
  have lower : 2 ^ (52 + excess num den) ≤ num / den :=
    (Nat.le_log2 some).mp (by unfold excess at *; omega)
  exact (Nat.mul_le_mul_left den lower).trans (Nat.mul_div_le num den)

/-- The significand of the nearest double, before it is carried. -/
theorem nearest_le_of_excess (hd : 0 < den) :
    nearest num (den * twoTo (excess num den)) ≤ 2 ^ 53 := by
  have scaled : 0 < den * twoTo (excess num den) := Nat.mul_pos hd (twoTo_pos _)
  have top : nearest (2 ^ 53 * (den * twoTo (excess num den))) (den * twoTo (excess num den))
      = 2 ^ 53 := nearest_mul _ scaled
  rw [← top]
  refine nearest_mono scaled scaled (Nat.mul_le_mul_right _ ?_)
  calc num ≤ den * twoTo (53 + excess num den) := (lt_of_excess hd).le
    _ = 2 ^ 53 * (den * twoTo (excess num den)) := by
      rw [twoTo_add]
      show den * (2 ^ 53 * _) = _
      ring

theorem le_nearest_of_excess (hd : 0 < den) (pos : 0 < excess num den) :
    2 ^ 52 ≤ nearest num (den * twoTo (excess num den)) := by
  have scaled : 0 < den * twoTo (excess num den) := Nat.mul_pos hd (twoTo_pos _)
  have bottom : nearest (2 ^ 52 * (den * twoTo (excess num den))) (den * twoTo (excess num den))
      = 2 ^ 52 := nearest_mul _ scaled
  rw [← bottom]
  refine nearest_mono scaled scaled (Nat.mul_le_mul_right _ ?_)
  calc 2 ^ 52 * (den * twoTo (excess num den)) = den * twoTo (52 + excess num den) := by
        rw [twoTo_add]
        show _ = den * (2 ^ 52 * _)
        ring
    _ ≤ num := le_of_excess pos

namespace Binary

theorem ofQuotient_negative (num den : Nat) : (ofQuotient num den).negative = false := by
  unfold ofQuotient
  dsimp only
  split <;> rfl

theorem isNormal_ofQuotient (hd : 0 < den) : (ofQuotient num den).IsNormal := by
  have carried : nearest num (den * twoTo (excess num den)) ≤ 2 ^ 53 := nearest_le_of_excess hd
  have leading := @le_nearest_of_excess num den hd
  unfold ofQuotient
  dsimp only
  split_ifs with below
  · refine ⟨below, by dsimp only; omega, ?_⟩
    dsimp only
    rcases Nat.eq_zero_or_pos (excess num den) with none | some
    · exact .inr (by omega)
    · exact .inl (leading some)
  · exact ⟨Nat.pow_lt_pow_right (by decide) (by decide), by dsimp only; omega, .inl le_rfl⟩

/-- **How many of the smallest double** the nearest one makes. -/
theorem units_ofQuotient (hd : 0 < den) :
    (ofQuotient num den).units
      = nearest num (den * twoTo (excess num den)) * twoTo (excess num den) := by
  have carried : nearest num (den * twoTo (excess num den)) ≤ 2 ^ 53 := nearest_le_of_excess hd
  unfold ofQuotient units
  dsimp only
  split_ifs with below
  · dsimp only
    rw [show ((excess num den : Int) - 1074 + 1074).toNat = excess num den by omega]
  · have top : nearest num (den * twoTo (excess num den)) = 2 ^ 53 := by omega
    dsimp only
    rw [show ((excess num den : Int) - 1073 + 1074).toNat = excess num den + 1 by omega, top,
      twoTo_succ]
    ring

variable {n d : Nat}

theorem excess_mono (hd : 0 < den) (he : 0 < d) (h : num * d ≤ n * den) :
    excess num den ≤ excess n d := by
  have whole : num / den ≤ n / d := by
    rw [Nat.le_div_iff_mul_le he]
    refine Nat.le_of_mul_le_mul_right ?_ hd
    calc num / den * d * den = den * (num / den) * d := by ring
      _ ≤ num * d := Nat.mul_le_mul_right d (Nat.mul_div_le num den)
      _ ≤ n * den := h
  unfold excess
  refine Nat.sub_le_sub_right ?_ 52
  by_cases zero : num / den = 0
  · rw [zero, Nat.log2_zero]
    exact Nat.zero_le _
  · have some : n / d ≠ 0 := ((Nat.pos_of_ne_zero zero).trans_le whole).ne'
    exact (Nat.le_log2 some).mpr ((Nat.log2_self_le zero).trans whole)

/-- **A larger quotient is not nearest to a smaller double.** -/
theorem ofQuotient_mono (hd : 0 < den) (he : 0 < d) (h : num * d ≤ n * den) :
    (ofQuotient num den).units ≤ (ofQuotient n d).units := by
  rw [units_ofQuotient hd, units_ofQuotient he]
  rcases (excess_mono hd he h).lt_or_eq with less | same
  · calc nearest num (den * twoTo (excess num den)) * twoTo (excess num den)
        ≤ 2 ^ 53 * twoTo (excess num den) := Nat.mul_le_mul_right _ (nearest_le_of_excess hd)
      _ ≤ 2 ^ 52 * twoTo (excess n d) := digits_le_leading less
      _ ≤ _ := Nat.mul_le_mul_right _ (le_nearest_of_excess he (Nat.zero_lt_of_lt less))
  · rw [same]
    refine Nat.mul_le_mul_right _ (nearest_mono (Nat.mul_pos hd (twoTo_pos _))
      (Nat.mul_pos he (twoTo_pos _)) ?_)
    rw [← Nat.mul_assoc, ← Nat.mul_assoc]
    exact Nat.mul_le_mul_right _ h

/-- **The nearest double does not depend on how a quotient is written.** -/
theorem ofQuotient_congr (hd : 0 < den) (he : 0 < d) (h : num * d = n * den) :
    ofQuotient num den = ofQuotient n d :=
  eq_of_units_eq (isNormal_ofQuotient hd) (isNormal_ofQuotient he)
    ((ofQuotient_negative num den).trans (ofQuotient_negative n d).symm)
    ((ofQuotient_mono hd he h.le).antisymm (ofQuotient_mono he hd h.ge))

/-- **A double is nearest to itself.** -/
theorem ofQuotient_units {b : Binary} (h : b.IsNormal) (nonneg : b.negative = false)
    (hd : 0 < den) : ofQuotient (b.units * den) den = b := by
  have digits : excess (b.units * den) den = (b.exponent + 1074).toNat := by
    refine excess_eq hd ?_ fun some => ?_
    · rw [Nat.mul_comm b.units, units, twoTo_add]
      exact Nat.mul_lt_mul_of_pos_left
        (Nat.mul_lt_mul_of_pos_right h.below (twoTo_pos _)) hd
    · have leading : 2 ^ 52 ≤ b.significand := h.leading.resolve_right (by omega)
      rw [Nat.mul_comm b.units, units, twoTo_add]
      exact Nat.mul_le_mul_left _ (Nat.mul_le_mul_right _ leading)
  refine eq_of_units_eq (isNormal_ofQuotient hd) h ((ofQuotient_negative _ _).trans nonneg.symm) ?_
  rw [units_ofQuotient hd, digits, units, show b.significand * twoTo (b.exponent + 1074).toNat * den
    = b.significand * (den * twoTo (b.exponent + 1074).toNat) by ring,
    nearest_mul _ (Nat.mul_pos hd (twoTo_pos _))]

end Binary

end

/-! ## Rounding is to the nearest double -/

/-- The exponent that a number is rounded at. -/
theorem targetExponent_eq (m : Nat) (e : Int) :
    Format.binary64.targetExponent (totalExponent m e) = max (m.log2 + e - 52) (-1074) := by
  show max ((m.log2 : Int) + 1 + e - 53) (-1074) = _
  congr 1
  omega

/-- **What is rounded a second time** was carried to a power of two, if anything. -/
theorem shiftToTargetExponent_exact {m : Nat} {e : Int} (least : -1074 ≤ e) (h : m ≤ 2 ^ 53) :
    UnpackedFloat.shiftToTargetExponent .binary64 m e .exact
      = if m < 2 ^ 53 then (⟨m, false, false⟩, e) else (⟨2 ^ 52, false, false⟩, e + 1) := by
  unfold UnpackedFloat.shiftToTargetExponent UnpackedFloat.shiftToExponent
  dsimp only
  rw [targetExponent_eq]
  split_ifs with below
  · have digits : m.log2 ≤ 52 := by
      by_cases zero : m = 0
      · rw [zero]
        decide
      · exact Nat.le_of_lt_succ ((Nat.log2_lt zero).mpr below)
    rw [show (max ((m.log2 : Int) + e - 52) (-1074) - e).toNat = 0 by omega]
    exact congrArg _ (Int.add_zero e)
  · obtain rfl : m = 2 ^ 53 := by omega
    rw [show (max (((2 ^ 53 : Nat).log2 : Int) + e - 52) (-1074) - e).toNat = 1 by
      rw [Nat.log2_two_pow]
      omega]
    rfl

/-- Rounding, once the digits to be dropped are. -/
theorem roundWithAccuracy_of_shift {em : ExtendedMantissa} {q m : Nat} {e f : Int}
    {accuracy : UnpackedFloat.Accuracy}
    (dropped : UnpackedFloat.shiftToTargetExponent .binary64 q e accuracy = (em, f))
    (rounded : em.roundedMantissa = m) (least : -1074 ≤ f) (carried : m ≤ 2 ^ 53) :
    UnpackedFloat.roundWithAccuracy .binary64 .positive q e accuracy
      = (if m < 2 ^ 53 then ⟨false, m, f⟩ else ⟨false, 2 ^ 52, f + 1⟩ : Binary).unpacked := by
  unfold UnpackedFloat.roundWithAccuracy
  rw [dropped]
  dsimp only
  rw [rounded, shiftToTargetExponent_exact least carried]
  by_cases below : m < 2 ^ 53
  · rw [if_pos below, if_pos below]
    dsimp only
    by_cases zero : m = 0
    · rw [dif_pos zero, Binary.unpacked_of_not_pos (Nat.not_lt.mpr (Nat.le_of_eq zero))]
      rfl
    · rw [dif_neg zero, Binary.unpacked_of_pos (Nat.pos_of_ne_zero zero)]
      rfl
  · have top : 0 < 2 ^ 52 := by decide
    rw [if_neg below, if_neg below, Binary.unpacked_of_pos top]
    rfl

section

variable {q r d : Nat} {e : Int}

/-- The digits in excess of a quotient that is scaled by a power of two. -/
theorem excess_scaled (h : r < d) (enough : 52 ≤ q.log2 ∨ e ≤ -1074) :
    excess ((q * d + r) * twoTo (e + 1074).toNat) (d * twoTo (-(e + 1074)).toNat)
      = (max (q.log2 + e - 52) (-1074) + 1074).toNat := by
  have upper : q * d + r < d * twoTo (q.log2 + 1) := by
    calc q * d + r < (q + 1) * d := by rw [Nat.succ_mul]; omega
      _ ≤ 2 ^ (q.log2 + 1) * d := Nat.mul_le_mul_right d Nat.lt_log2_self
      _ = d * twoTo (q.log2 + 1) := Nat.mul_comm ..
  have pos : 0 < d * twoTo (-(e + 1074)).toNat := Nat.mul_pos (by omega) (twoTo_pos _)
  refine excess_eq pos ?_ fun some => ?_
  · generalize isShift : (max (q.log2 + e - 52) (-1074) + 1074).toNat = k
    calc (q * d + r) * twoTo (e + 1074).toNat
        < d * twoTo (q.log2 + 1) * twoTo (e + 1074).toNat :=
          Nat.mul_lt_mul_of_pos_right upper (twoTo_pos _)
      _ = d * twoTo (q.log2 + 1 + (e + 1074).toNat) := by rw [Nat.mul_assoc, ← twoTo_add]
      _ ≤ d * twoTo ((-(e + 1074)).toNat + (53 + k)) :=
          Nat.mul_le_mul_left d (twoTo_le_twoTo (by omega))
      _ = d * twoTo (-(e + 1074)).toNat * twoTo (53 + k) := by rw [twoTo_add, Nat.mul_assoc]
  · generalize isShift : (max (q.log2 + e - 52) (-1074) + 1074).toNat = k at some ⊢
    have leading : q ≠ 0 := by
      rintro rfl
      rw [show Nat.log2 0 = 0 from by decide] at isShift enough
      omega
    calc d * twoTo (-(e + 1074)).toNat * twoTo (52 + k)
        = d * twoTo ((-(e + 1074)).toNat + (52 + k)) := by rw [Nat.mul_assoc, ← twoTo_add]
      _ = d * twoTo (q.log2 + (e + 1074).toNat) := by congr 2; omega
      _ = twoTo q.log2 * d * twoTo (e + 1074).toNat := by
          rw [twoTo_add, ← Nat.mul_assoc, Nat.mul_comm d]
      _ ≤ (q * d + r) * twoTo (e + 1074).toNat := by
          refine Nat.mul_le_mul_right _ (Nat.le_add_right_of_le (Nat.mul_le_mul_right d ?_))
          exact Nat.log2_self_le leading

/-- **Rounding is to the nearest double**: a quotient with what is left of it, scaled by a power of
two. -/
theorem roundWithAccuracy_eq (h : r < d) (enough : 52 ≤ q.log2 ∨ e ≤ -1074) :
    UnpackedFloat.roundWithAccuracy .binary64 .positive q e (UnpackedFloat.accuracyOfFraction r d)
      = (Binary.ofQuotient ((q * d + r) * twoTo (e + 1074).toNat)
          (d * twoTo (-(e + 1074)).toNat)).unpacked := by
  have pos : 0 < d := by omega
  have digits := excess_scaled h enough
  have target : e ≤ max (q.log2 + e - 52) (-1074) := by omega
  -- the significand is rounded once, at the exponent that the double gets
  have significand : ((ExtendedMantissa.ofMantissaAndAccuracy q
        (UnpackedFloat.accuracyOfFraction r d))
          >>> (max (q.log2 + e - 52) (-1074) - e).toNat).roundedMantissa
      = nearest ((q * d + r) * twoTo (e + 1074).toNat) (d * twoTo (-(e + 1074)).toNat
          * twoTo (excess ((q * d + r) * twoTo (e + 1074).toNat)
              (d * twoTo (-(e + 1074)).toNat))) := by
    rw [((represents_of_fraction h).shiftRight pos _).roundedMantissa
      (Nat.mul_pos pos (twoTo_pos _)), digits]
    refine nearest_congr (Nat.mul_pos pos (twoTo_pos _))
      (Nat.mul_pos (Nat.mul_pos pos (twoTo_pos _)) (twoTo_pos _)) ?_
    have powers : twoTo (-(e + 1074)).toNat * twoTo (max (q.log2 + e - 52) (-1074) + 1074).toNat
        = twoTo (e + 1074).toNat * twoTo (max (q.log2 + e - 52) (-1074) - e).toNat := by
      rw [← twoTo_add, ← twoTo_add]
      congr 1
      omega
    rw [Nat.mul_assoc d, powers]
    ring
  have carried := @nearest_le_of_excess ((q * d + r) * twoTo (e + 1074).toNat) _
    (Nat.mul_pos pos (twoTo_pos (-(e + 1074)).toNat))
  have dropped : UnpackedFloat.shiftToTargetExponent .binary64 q e
        (UnpackedFloat.accuracyOfFraction r d)
      = (ExtendedMantissa.ofMantissaAndAccuracy q (UnpackedFloat.accuracyOfFraction r d)
          >>> (max (q.log2 + e - 52) (-1074) - e).toNat, max (q.log2 + e - 52) (-1074)) := by
    unfold UnpackedFloat.shiftToTargetExponent UnpackedFloat.shiftToExponent
    dsimp only
    rw [targetExponent_eq, Int.toNat_of_nonneg (by omega), add_sub_cancel]
  rw [roundWithAccuracy_of_shift dropped significand (le_max_right _ _) carried]
  unfold Binary.ofQuotient
  dsimp only
  rw [digits, Int.toNat_of_nonneg (by omega)]
  rw [show max ((q.log2 : Int) + e - 52) (-1074) + 1074 - 1074 = max (q.log2 + e - 52) (-1074) by
      omega,
    show max ((q.log2 : Int) + e - 52) (-1074) + 1074 - 1073 = max (q.log2 + e - 52) (-1074) + 1 by
      omega]

end

/-! ## Arithmetic is to the nearest double -/

section

variable {m n : Nat} {e f : Int}

/-- A product is rounded to the nearest double. -/
theorem mul_finite (hm : 0 < m) (hn : 0 < n) (enough : 52 ≤ (m * n).log2 ∨ e + f ≤ -1074) :
    UnpackedFloat.mul .binary64 (.finite .positive m e hm) (.finite .positive n f hn)
      = (Binary.ofQuotient (m * n * twoTo (e + f + 1074).toNat)
          (twoTo (-(e + f + 1074)).toNat)).unpacked := by
  have rounded := roundWithAccuracy_eq Nat.zero_lt_one enough
  rw [Nat.mul_one, Nat.add_zero, Nat.one_mul] at rounded
  exact rounded

/-- A quotient is rounded to the nearest double. -/
theorem div_finite (hm : 0 < m) (hn : 0 < n) :
    UnpackedFloat.div .binary64 (.finite .positive m e hm) (.finite .positive n f hn)
      = (Binary.ofQuotient (m * twoTo (e - f + 1074).toNat)
          (n * twoTo (-(e - f + 1074)).toNat)).unpacked := by
  have exponent : Format.binary64.targetExponent (totalExponent m e - totalExponent n f)
      = max ((m.log2 : Int) + e - (n.log2 + f) - 53) (-1074) := by
    show max (((m.log2 : Int) + 1 + e) - (n.log2 + 1 + f) - 53) (-1074) = _
    congr 1
    omega
  obtain ⟨t, isTarget⟩ : ∃ t,
      t = min (e - f) (max ((m.log2 : Int) + e - (n.log2 + f) - 53) (-1074)) := ⟨_, rfl⟩
  obtain ⟨s, isShift⟩ : ∃ s, s = (e - f - t).toNat := ⟨_, rfl⟩
  -- the numerator is shifted so far that the quotient has all digits that are kept
  have enough : 52 ≤ ((m <<< s) / n).log2 ∨ t ≤ -1074 := by
    by_cases least : t ≤ -1074
    · exact .inr least
    · left
      have digits : 52 + (n.log2 + 1) ≤ m.log2 + s := by omega
      have quotient : 2 ^ 52 ≤ (m <<< s) / n := by
        rw [Nat.le_div_iff_mul_le hn, Nat.shiftLeft_eq]
        calc 2 ^ 52 * n ≤ 2 ^ 52 * 2 ^ (n.log2 + 1) := Nat.mul_le_mul_left _ Nat.lt_log2_self.le
          _ = 2 ^ (52 + (n.log2 + 1)) := (Nat.pow_add ..).symm
          _ ≤ 2 ^ (m.log2 + s) := Nat.pow_le_pow_right (by decide) digits
          _ = 2 ^ m.log2 * 2 ^ s := Nat.pow_add ..
          _ ≤ m * 2 ^ s := Nat.mul_le_mul_right _ (Nat.log2_self_le hm.ne')
      exact (Nat.le_log2 (Nat.pos_of_ne_zero (by omega)).ne').mpr quotient
  have rounded := roundWithAccuracy_eq (Nat.mod_lt (m <<< s) hn) enough
  have opened : UnpackedFloat.div .binary64 (.finite .positive m e hm) (.finite .positive n f hn)
      = UnpackedFloat.roundWithAccuracy .binary64 .positive ((m <<< s) / n) t
          (UnpackedFloat.accuracyOfFraction ((m <<< s) % n) n) := by
    unfold UnpackedFloat.div UnpackedFloat.divCore
    dsimp only
    rw [exponent, ← isTarget, ← isShift]
    rfl
  rw [opened, rounded, Nat.mul_comm (m <<< s / n) n, Nat.div_add_mod, Nat.shiftLeft_eq]
  refine congrArg Binary.unpacked (Binary.ofQuotient_congr (Nat.mul_pos hn (twoTo_pos _))
    (Nat.mul_pos hn (twoTo_pos _)) ?_)
  have powers : twoTo s * twoTo (t + 1074).toNat * twoTo (-(e - f + 1074)).toNat
      = twoTo (e - f + 1074).toNat * twoTo (-(t + 1074)).toNat := by
    rw [← twoTo_add, ← twoTo_add, ← twoTo_add]
    congr 1
    omega
  calc m * twoTo s * twoTo (t + 1074).toNat * (n * twoTo (-(e - f + 1074)).toNat)
      = m * n * (twoTo s * twoTo (t + 1074).toNat * twoTo (-(e - f + 1074)).toNat) := by ring
    _ = m * n * (twoTo (e - f + 1074).toNat * twoTo (-(t + 1074)).toNat) := by rw [powers]
    _ = m * twoTo (e - f + 1074).toNat * (n * twoTo (-(t + 1074)).toNat) := by ring

/-- A number is rounded to the nearest double. -/
theorem round_eq (hm : 0 < m) :
    UnpackedFloat.round .binary64 .positive m e
      = (Binary.ofQuotient (m * twoTo (e + 1074).toNat)
          (twoTo (-(e + 1074)).toNat)).unpacked := by
  obtain ⟨s, isShift⟩ : ∃ s, s = (e - max (m.log2 + e - 52) (-1074)).toNat := ⟨_, rfl⟩
  have digits : (m <<< s).log2 = m.log2 + s := by
    have scaled : m * 2 ^ s ≠ 0 := (Nat.mul_pos hm (twoTo_pos s)).ne'
    rw [Nat.shiftLeft_eq, Nat.log2_eq_iff scaled, Nat.add_right_comm, Nat.pow_add, Nat.pow_add]
    exact ⟨Nat.mul_le_mul_right _ (Nat.log2_self_le hm.ne'),
      Nat.mul_lt_mul_of_pos_right Nat.lt_log2_self (twoTo_pos s)⟩
  have enough : 52 ≤ (m <<< s).log2 ∨ e - s ≤ -1074 := by omega
  have rounded := roundWithAccuracy_eq Nat.zero_lt_one enough
  have opened : UnpackedFloat.round .binary64 .positive m e
      = UnpackedFloat.roundWithAccuracy .binary64 .positive (m <<< s) (e - s)
          (UnpackedFloat.accuracyOfFraction 0 1) := by
    unfold UnpackedFloat.round UnpackedFloat.decreaseExponent
    dsimp only
    rw [targetExponent_eq, ← isShift]
    rfl
  rw [opened, rounded, Nat.mul_one, Nat.add_zero, Nat.one_mul, Nat.shiftLeft_eq]
  refine congrArg Binary.unpacked (Binary.ofQuotient_congr (twoTo_pos _) (twoTo_pos _) ?_)
  have powers : twoTo s * twoTo (e - s + 1074).toNat * twoTo (-(e + 1074)).toNat
      = twoTo (e + 1074).toNat * twoTo (-(e - s + 1074)).toNat := by
    rw [← twoTo_add, ← twoTo_add, ← twoTo_add]
    congr 1
    omega
  calc m * twoTo s * twoTo (e - s + 1074).toNat * twoTo (-(e + 1074)).toNat
      = m * (twoTo s * twoTo (e - s + 1074).toNat * twoTo (-(e + 1074)).toNat) := by ring
    _ = m * twoTo (e + 1074).toNat * twoTo (-(e - s + 1074)).toNat := by rw [powers]; ring

end

end OrderDesk.Number

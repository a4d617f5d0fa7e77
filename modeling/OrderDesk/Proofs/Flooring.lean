import Mathlib.Algebra.Order.Floor.Semifield
import Mathlib.Data.Rat.Floor
import OrderDesk.Proofs.Measured
import OrderDesk.Proofs.Printing

/-!
# Flooring to a step is exact

An amount is floored in decimals of twenty-eight digits. The quotient by the step is rounded to them
before it is floored, so an amount a little less than a whole number of steps could be taken for
that whole number, and an order would be sent for more than was asked for. What keeps this from
happening is how few digits the two decimals have. A double is printed with seventeen digits at
most, and a quotient of such decimals stays away from the next whole number by more than half of the
last digit that is kept, as long as ten digits are enough before the point (`IsShort.far`).

The product is not rounded: a count of ten digits and a step of seventeen fit in twenty-eight. So
the floored decimal is the greatest multiple of the step that is not above the amount
(`Decimal.toRat_floorTo`), and from this everything else about it follows.
-/

namespace OrderDesk

namespace Number

/-! ## The quotient -/

section

variable {num den : Nat}

/-- **Rounding to some digits does not take a quotient to the next whole number**, as long as it
stays further below it than half of the last digit. -/
theorem nearest_scaled_div {t : Nat} (hd : 0 < den) (ht : 0 < t)
    (far : den < 2 * t * (den * (num / den + 1) - num)) :
    nearest (num * t) den / t = num / den := by
  have whole : den * (num / den) ≤ num := Nat.mul_div_le num den
  have next : num < den * (num / den + 1) := Nat.lt_mul_div_succ num hd
  generalize num / den = q at *
  obtain ⟨gap, isGap⟩ := Nat.exists_eq_add_of_lt next
  refine Nat.div_eq_of_lt_le ?_ ?_
  · have exact : nearest (q * t * den) den = q * t := nearest_mul _ hd
    rw [← exact]
    refine nearest_mono hd hd (Nat.mul_le_mul_right den ?_)
    calc q * t * den = den * q * t := by ring
      _ ≤ num * t := Nat.mul_le_mul_right t whole
  · by_contra reached
    obtain ⟨k, isLast⟩ : ∃ k, (q + 1) * t = k + 1 :=
      Nat.exists_eq_succ_of_ne_zero (Nat.mul_pos (Nat.succ_pos q) ht).ne'
    -- rounding would have to go beyond the number before the next whole one
    have beyond : k < nearest (num * t) den := by omega
    have passes := (lt_nearest_iff k hd).mp beyond
    have half : den * (2 * k + 1) ≤ 2 * (num * t) := passes.elim le_of_lt fun tie => tie.1.le
    have far' : den < 2 * t * (gap + 1) := by
      rwa [isGap, Nat.add_assoc, Nat.add_sub_cancel_left] at far
    have upTo : den * (2 * k + 1) + den = 2 * (num * t) + 2 * t * (gap + 1) := by
      calc den * (2 * k + 1) + den = 2 * (den * (k + 1)) := by ring
        _ = 2 * (den * (q + 1) * t) := by rw [← isLast]; ring
        _ = 2 * (num * t) + 2 * t * (gap + 1) := by rw [isGap]; ring
    omega

/-- A quotient is far from the next whole number when its numbers are small. -/
theorem quotient_far {t : Nat} (hd : 0 < den) (ht : tenTo 18 ≤ t)
    (short : num ≤ tenTo 17 ∨ den ≤ tenTo 17) :
    den < 2 * t * (den * (num / den + 1) - num) := by
  have next : num < den * (num / den + 1) := Nat.lt_mul_div_succ num hd
  have powers : tenTo 18 = 10 * tenTo 17 := by decide
  have positive : 0 < tenTo 17 := tenTo_pos 17
  by_cases few : den ≤ 2 * tenTo 17
  · calc den < 2 * t * 1 := by omega
      _ ≤ 2 * t * (den * (num / den + 1) - num) := Nat.mul_le_mul_left _ (by omega)
  · -- then the quotient is less than one half
    rw [Nat.div_eq_of_lt (by omega)]
    calc den < 2 * (den * (0 + 1) - num) := by omega
      _ ≤ t * (2 * (den * (0 + 1) - num)) := Nat.le_mul_of_pos_left _ (by omega)
      _ = 2 * t * (den * (0 + 1) - num) := by ring

/-- What is far from the next whole number does not depend on how the quotient is written. -/
theorem far_mul {t d : Nat} (hd : 0 < d)
    (far : den < 2 * t * (den * (num / den + 1) - num)) :
    d * den < 2 * t * (d * den * (d * num / (d * den) + 1) - d * num) := by
  rw [Nat.mul_div_mul_left _ _ hd, Nat.mul_assoc d, ← Nat.mul_sub, Nat.mul_left_comm]
  exact Nat.mul_lt_mul_of_pos_left far hd

/-- **A quotient of short numbers stays away from the next whole number.** -/
theorem IsShort.far {t : Nat} (hn : IsShort num) (hd : IsShort den) (pos : 0 < den)
    (ht : tenTo 18 ≤ t) : den < 2 * t * (den * (num / den + 1) - num) := by
  obtain ⟨n, x, rfl, fewN⟩ := hn
  obtain ⟨d, y, rfl, fewD⟩ := hd
  rcases Nat.le_total x y with less | greater
  · obtain ⟨k, rfl⟩ := Nat.exists_eq_add_of_le less
    have common : d * tenTo (x + k) = tenTo x * (d * tenTo k) := by rw [tenTo_add]; ring
    rw [common] at pos ⊢
    rw [Nat.mul_comm n]
    exact far_mul (tenTo_pos x) (quotient_far (Nat.pos_of_mul_pos_left pos) ht (.inl fewN))
  · obtain ⟨k, rfl⟩ := Nat.exists_eq_add_of_le greater
    have common : n * tenTo (y + k) = tenTo y * (n * tenTo k) := by rw [tenTo_add]; ring
    rw [common, Nat.mul_comm d] at *
    exact far_mul (tenTo_pos y) (quotient_far (Nat.pos_of_mul_pos_left pos) ht (.inr fewD))

/-- **The quotient of two short numbers**, rounded to the working digits, is floored to what the
quotient itself is floored to, as long as the working digits reach beyond the point. -/
theorem floor_toWorkingDigits (hn : IsShort num) (hd : IsShort den) (positive : 0 < num)
    (pos : 0 < den) (below : (num / den : Rat) < 10 ^ 10) :
    Decimal.floor ⟨false, (toWorkingDigits num den).1, (toWorkingDigits num den).2⟩
      = ⟨false, num / den, 0⟩ := by
  have least : (10 : Rat) ^ (scale num den - 1) < 10 ^ (10 : Int) :=
    (scale_spec positive pos).2.trans_lt (by exact_mod_cast below)
  have few : scale num den - 1 < 10 := (zpow_lt_zpow_iff_right₀ (by norm_num)).mp least
  obtain ⟨k, isExponent⟩ : ∃ k : Nat, scale num den - workingDigits = -((18 + k : Nat) : Int) := by
    refine ⟨(10 - scale num den).toNat, ?_⟩
    unfold workingDigits
    omega
  unfold toWorkingDigits Decimal.floor
  dsimp only
  rw [isExponent, neg_neg, Int.toNat_natCast, Int.toNat_of_nonpos (by omega)]
  show Decimal.mk false (nearest (num * tenTo (18 + k)) (den * 1) * 1 / tenTo (18 + k)) 0 = _
  rw [Nat.mul_one, Nat.mul_one, nearest_scaled_div pos (tenTo_pos _)
    (hn.far hd pos (tenTo_le_tenTo (Nat.le_add_right 18 k)))]

/-- **A number of few digits before its zeros** is not changed by rounding to the working digits. -/
theorem toWorkingDigits_of_few {digits zeros : Nat} (few : digits < tenTo 28)
    (long : workingDigits < digitCount (digits * tenTo zeros)) :
    ((toWorkingDigits (digits * tenTo zeros) 1).1 : Rat)
        * 10 ^ (toWorkingDigits (digits * tenTo zeros) 1).2
      = (digits * tenTo zeros : Nat) := by
  have positive : 0 < digits * tenTo zeros := by
    rw [Nat.pos_iff_ne_zero]
    intro zero
    rw [zero, digitCount_zero] at long
    exact absurd long (by decide)
  obtain ⟨above, reaches⟩ := scale_spec positive Nat.one_pos
  rw [Nat.cast_one, div_one] at above reaches
  have ten : (1 : Rat) < 10 := by norm_num
  -- the number has more digits than are kept
  have large : (workingDigits : Int) ≤ scale (digits * tenTo zeros) 1 := by
    have digitsBelow := (digitCount_spec positive).1.trans_lt above
    have := (zpow_lt_zpow_iff_right₀ ten).mp digitsBelow
    omega
  obtain ⟨k, isExponent⟩ : ∃ k : Nat, scale (digits * tenTo zeros) 1 - workingDigits = k :=
    ⟨_, (Int.toNat_of_nonneg (by omega)).symm⟩
  -- and all that are not kept are zeros
  have zerosOnly : k ≤ zeros := by
    have below : ((digits * tenTo zeros : Nat) : Rat) < 10 ^ ((28 + zeros : Nat) : Int) := by
      rw [zpow_natCast, ← cast_tenTo, Nat.cast_lt, tenTo_add]
      exact Nat.mul_lt_mul_of_pos_right few (tenTo_pos _)
    have := (zpow_lt_zpow_iff_right₀ ten).mp (reaches.trans_lt below)
    have kept : workingDigits = 28 := rfl
    omega
  obtain ⟨rest, rfl⟩ := Nat.exists_eq_add_of_le zerosOnly
  have split : digits * tenTo (k + rest) = digits * tenTo rest * tenTo k := by
    rw [tenTo_add]
    ring
  unfold toWorkingDigits
  dsimp only
  rw [isExponent, Int.toNat_natCast, Int.toNat_of_nonpos (by omega)]
  show ((nearest (digits * tenTo (k + rest) * 1) (1 * tenTo k) : Nat) : Rat) * 10 ^ (k : Int) = _
  rw [Nat.mul_one, Nat.one_mul, split, nearest_mul _ (tenTo_pos k), zpow_natCast, ← cast_tenTo,
    ← Nat.cast_mul]

end

/-! ## The floored decimal -/

namespace Decimal

variable {v w s : Decimal}

/-- **The quotient of two decimals** is floored as it should be. -/
theorem floor_div (hv : v.IsPlain) (hs : s.IsPlain) (below : v.toRat / s.toRat < 10 ^ 10) :
    (v.div s).floor = ⟨false, ⌊v.toRat / s.toRat⌋₊, 0⟩ := by
  have quotient : v.toRat / s.toRat
      = (v.coefficient * tenTo (v.exponent - s.exponent).toNat : Nat)
        / (s.coefficient * tenTo (-(v.exponent - s.exponent)).toNat : Nat) := by
    have swap := scaled_div v.coefficient s.coefficient (-(v.exponent - s.exponent))
    rw [neg_neg] at swap
    rw [swap, toRat_of_nonneg hv.negative, toRat_of_nonneg hs.negative, mul_div_mul_comm, zpow_neg,
      div_inv_eq_mul, zpow_sub₀ (by norm_num)]
  have positive : 0 < v.coefficient * tenTo (v.exponent - s.exponent).toNat :=
    Nat.mul_pos hv.coefficient (tenTo_pos _)
  rw [quotient] at below ⊢
  unfold div
  dsimp only
  rw [if_neg (by simpa using positive.ne'), hv.negative, Nat.floor_div_eq_div]
  exact floor_toWorkingDigits (hv.short.mul_tenTo _) (hs.short.mul_tenTo _) positive
    (Nat.mul_pos hs.coefficient (tenTo_pos _)) below

/-- **A whole number of steps** is not rounded, as long as it has few digits. -/
theorem toRat_mul (hs : s.IsPlain) {n : Nat} (few : n < tenTo 10) :
    (mul ⟨false, n, 0⟩ s).toRat = n * s.toRat := by
  rw [toRat_of_nonneg hs.negative, ← mul_assoc, ← Nat.cast_mul]
  unfold mul
  dsimp only
  split_ifs with fits
  · rw [toRat_of_nonneg rfl]
    dsimp only
    rw [zero_add]
  · obtain ⟨digits, zeros, isShort, small⟩ := hs.short
    have same : n * s.coefficient = n * digits * tenTo zeros := by rw [isShort, Nat.mul_assoc]
    have fewDigits : n * digits < tenTo 28 := by
      calc n * digits < tenTo 10 * tenTo 17 := Nat.mul_lt_mul_of_lt_of_le few small (tenTo_pos 17)
        _ ≤ tenTo 28 := by decide
    rw [not_le, same] at fits
    have exact := toWorkingDigits_of_few fewDigits fits
    rw [← same] at exact
    rw [toRat_of_nonneg rfl]
    dsimp only
    rw [Int.add_zero, zpow_add₀ (by norm_num), ← mul_assoc, exact]

/-- **Flooring to a step is exact**: the greatest whole number of steps that is not greater. -/
theorem toRat_floorTo (hv : v.IsPlain) (hs : s.IsPlain) (below : v.toRat / s.toRat < 10 ^ 10) :
    (v.floorTo s).toRat = ⌊v.toRat / s.toRat⌋₊ * s.toRat := by
  have few : ⌊v.toRat / s.toRat⌋₊ < tenTo 10 := by
    rwa [Nat.floor_lt (div_pos hv.toRat_pos hs.toRat_pos).le, cast_tenTo]
  unfold floorTo
  rw [floor_div hv hs below, toRat_mul hs few]

/-- **What is floored is not more.** -/
theorem floorTo_le (hv : v.IsPlain) (hs : s.IsPlain) (below : v.toRat / s.toRat < 10 ^ 10) :
    (v.floorTo s).toRat ≤ v.toRat := by
  rw [toRat_floorTo hv hs below, ← le_div_iff₀ hs.toRat_pos]
  exact Nat.floor_le (div_pos hv.toRat_pos hs.toRat_pos).le

/-- **Less than one step is lost.** -/
theorem sub_lt_floorTo (hv : v.IsPlain) (hs : s.IsPlain) (below : v.toRat / s.toRat < 10 ^ 10) :
    v.toRat - s.toRat < (v.floorTo s).toRat := by
  have next := Nat.lt_floor_add_one (v.toRat / s.toRat)
  rw [div_lt_iff₀ hs.toRat_pos, add_one_mul] at next
  rw [toRat_floorTo hv hs below]
  exact sub_lt_iff_lt_add.mpr next

/-- **A multiple of the step** is left as it is. -/
theorem floorTo_of_multiple (hv : v.IsPlain) (hs : s.IsPlain) (below : v.toRat / s.toRat < 10 ^ 10)
    {k : Nat} (multiple : v.toRat = k * s.toRat) : (v.floorTo s).toRat = v.toRat := by
  rw [toRat_floorTo hv hs below, multiple, mul_div_cancel_right₀ _ hs.toRat_pos.ne',
    Nat.floor_natCast]

/-- **What is more is not floored to less.** -/
theorem floorTo_mono (hw : w.IsPlain) (hv : v.IsPlain) (hs : s.IsPlain)
    (below : v.toRat / s.toRat < 10 ^ 10) (le : w.toRat ≤ v.toRat) :
    (w.floorTo s).toRat ≤ (v.floorTo s).toRat := by
  have quotients : w.toRat / s.toRat ≤ v.toRat / s.toRat :=
    div_le_div_of_nonneg_right le hs.toRat_pos.le
  rw [toRat_floorTo hw hs (quotients.trans_lt below), toRat_floorTo hv hs below]
  exact mul_le_mul_of_nonneg_right (Nat.cast_le.mpr (Nat.floor_mono quotients)) hs.toRat_pos.le

/-- Flooring keeps the sign. -/
theorem negative_floorTo (v s : Decimal) : (v.floorTo s).negative = v.negative := by
  have quotient : (v.div s).negative = v.negative := by
    unfold div
    dsimp only
    split <;> rfl
  have whole : (v.div s).floor.negative = (v.div s).negative := by
    unfold floor
    dsimp only
    split <;> simp_all
  have product : (v.floorTo s).negative = (v.div s).floor.negative := by
    unfold floorTo mul
    dsimp only
    split <;> rfl
  rw [product, whole, quotient]

end Decimal

end Number

/-! ## Steps -/

open Number (Decimal)

/-- The step is above zero and finite. A whole one is short, as those are that a market states. -/
def Step.IsPositive : Step → Prop
  | .whole n => 0 < n ∧ Number.IsShort n
  | .real x => 0.0 < x ∧ x.isFinite = true

/-- Such a step is of use, and a decimal of few digits. -/
theorem Step.IsPositive.exists_usable {step : Step} (h : step.IsPositive) :
    ∃ s, step.usable? = some s ∧ s.IsPlain := by
  match step with
  | .whole n => exact ⟨.ofNat n, if_neg (by simpa using h.1.ne'), rfl, h.1, h.2⟩
  | .real x =>
    obtain ⟨s, printed⟩ := Option.isSome_iff_exists.mp (Decimal.isSome_ofFloat? h.2)
    refine ⟨s, ?_, (Decimal.isPlain_of_ofFloat? h.1 printed).1⟩
    exact (if_neg fun le => Number.not_lt_of_le le h.1).trans printed

/-- A whole step that a market states is a power of ten. -/
theorem Market.exists_tenTo_of_step? {mode : PrecisionMode} {p : Payload} {n : Nat}
    (stated : Market.step? mode p = .ok (some (.whole n))) : ∃ k, n = Number.tenTo k := by
  unfold Market.step? at stated
  obtain ⟨number, -, stated⟩ := Run.ok_of_bind stated
  match number, mode with
  | none, _ | some _, .tickSize | some _, .other => cases stated
  | some x, .decimalPlaces =>
    obtain ⟨places, -, stated⟩ := Run.ok_of_bind stated
    have isStep : stepOfPlaces places = .whole n := Option.some.inj (Except.ok.inj stated)
    unfold stepOfPlaces at isStep
    split at isStep
    · exact ⟨_, (Step.whole.inj isStep).symm⟩
    · cases isStep

/-- **The steps that a market states** are such, when they are of use. -/
theorem Market.isPositive_of_step? {mode : PrecisionMode} {p : Payload} {step : Step} {s : Decimal}
    (stated : Market.step? mode p = .ok (some step)) (usable : step.usable? = some s) :
    step.IsPositive := by
  match step with
  | .whole n =>
    obtain ⟨k, rfl⟩ := Market.exists_tenTo_of_step? stated
    exact ⟨Number.tenTo_pos k, 1, k, (Nat.one_mul _).symm, by decide⟩
  | .real x =>
    obtain ⟨above, printed⟩ := Option.ite_none_left_eq_some.mp usable
    obtain ⟨b, exact, -⟩ := Option.map_eq_some_iff.mp printed
    have number := Number.Binary.isNaN_toFloat b
    rw [Number.Binary.toFloat_of_ofFloat? exact] at number
    exact ⟨Number.lt_of_not_le number rfl above, Number.Binary.isFinite_of_ofFloat? exact⟩

/-! ## Doubles -/

namespace Number

/-- What a double is floored to, in decimals. -/
theorem floorToStep_eq {value : Float} {step : Step} {v s : Decimal}
    (printed : Decimal.ofFloat? value = some v) (usable : step.usable? = some s) :
    floorToStep value (some step) = .ok (v.floorTo s).toFloat := by
  have floored : floorByDecimal value s = (v.floorTo s).toFloat := by
    unfold floorByDecimal
    rw [printed]
  unfold floorToStep
  unfold Step.usable? at usable
  match step with
  | .whole n =>
    obtain ⟨positive, isStep⟩ := Option.ite_none_left_eq_some.mp usable
    obtain rfl := Option.some.inj isStep
    dsimp only
    rw [if_neg positive, floored]
  | .real x =>
    obtain ⟨positive, isStep⟩ := Option.ite_none_left_eq_some.mp usable
    dsimp only
    rw [if_neg positive, isStep]
    dsimp only
    rw [floored]

/-- **Flooring to a step is exact.** The decimals `v` and `s` that an amount and its step are
printed as are positive, the one of the amount reads as the amount again, and what the amount is
floored to is read off the floored decimal. As long as there are less than `10 ^ 10` steps in it,
this decimal is `⌊v / s⌋` steps, so that it is not above `v` and less than a step below it. A
multiple of the step is left as it is, and a lower amount is not floored to more. -/
theorem flooring_is_exact (step : Step) (value : Float) (stepPositive : step.IsPositive)
    (positive : 0.0 < value) (finite : value.isFinite = true) :
    ∃ v s, Decimal.ofFloat? value = some v ∧ step.usable? = some s ∧ 0 < v.toRat ∧ 0 < s.toRat ∧
      v.toFloat = value ∧ floorToStep value (some step) = .ok (v.floorTo s).toFloat ∧
      (v.toRat / s.toRat < 10 ^ 10 →
        (v.floorTo s).toRat = ⌊v.toRat / s.toRat⌋₊ * s.toRat ∧
        (v.floorTo s).toRat ≤ v.toRat ∧ v.toRat - s.toRat < (v.floorTo s).toRat ∧
        (∀ k : Nat, v.toRat = k * s.toRat →
          (v.floorTo s).toRat = v.toRat ∧ floorToStep value (some step) = .ok value) ∧
        ∀ lower w, 0.0 < lower → lower ≤ value → Decimal.ofFloat? lower = some w →
          (w.floorTo s).toRat ≤ (v.floorTo s).toRat ∧
            floorToStep lower (some step) = .ok (w.floorTo s).toFloat ∧
            (w.floorTo s).toFloat ≤ (v.floorTo s).toFloat) := by
  obtain ⟨s, usable, plainS⟩ := stepPositive.exists_usable
  obtain ⟨v, printed⟩ := Option.isSome_iff_exists.mp (Decimal.isSome_ofFloat? finite)
  obtain ⟨plainV, reads⟩ := Decimal.isPlain_of_ofFloat? positive printed
  have floored := floorToStep_eq printed usable
  have nonneg := (Decimal.negative_floorTo v s).trans plainV.negative
  refine ⟨v, s, printed, usable, plainV.toRat_pos, plainS.toRat_pos, reads, floored, fun below =>
    ⟨Decimal.toRat_floorTo plainV plainS below, Decimal.floorTo_le plainV plainS below,
      Decimal.sub_lt_floorTo plainV plainS below, fun k multiple => ?_,
      fun lower w positiveW le printedW => ?_⟩⟩
  · have unchanged := Decimal.floorTo_of_multiple plainV plainS below multiple
    refine ⟨unchanged, ?_⟩
    rw [floored, Decimal.toFloat_congr nonneg plainV.negative unchanged, reads]
  · obtain ⟨plainW, -⟩ := Decimal.isPlain_of_ofFloat? positiveW printedW
    have smaller := Decimal.toRat_mono positiveW positive le printedW printed
    have less := Decimal.floorTo_mono plainW plainV plainS below smaller
    have nonnegW := (Decimal.negative_floorTo w s).trans plainW.negative
    exact ⟨less, floorToStep_eq printedW usable, Decimal.toFloat_le nonnegW nonneg less⟩

/-- By a step of one hundredth `123.456` is floored to `123.45`. -/
theorem flooring_is_exact_hundredths :
    (Step.real 0.01).IsPositive ∧ (0.0 : Float) < 123.456 ∧ (123.456 : Float).isFinite = true ∧
    ∃ v s, Decimal.ofFloat? 123.456 = some v ∧ v.toRat = 123456 / 1000 ∧
      (Step.real 0.01).usable? = some s ∧ s.toRat = 1 / 100 ∧ (v.floorTo s).toRat = 12345 / 100 ∧
      floorToStep 123.456 (some (.real 0.01)) = .ok 123.45 := by
  have stepPositive : (Step.real 0.01).IsPositive := ⟨by decide +kernel, by decide +kernel⟩
  have positive : (0.0 : Float) < 123.456 := by decide +kernel
  have finite : (123.456 : Float).isFinite = true := by decide +kernel
  obtain ⟨v, s, printed, usable, -, -, -, floored, exact⟩ :=
    flooring_is_exact _ _ stepPositive positive finite
  have isV : Decimal.ofFloat? 123.456 = some ⟨false, 123456, -3⟩ := by decide +kernel
  have isS : (Step.real 0.01).usable? = some ⟨false, 1, -2⟩ := by decide +kernel
  obtain rfl := Option.some.inj (printed.symm.trans isV)
  obtain rfl := Option.some.inj (usable.symm.trans isS)
  obtain ⟨isFloor, -⟩ := exact (by decide +kernel)
  have count : ⌊Decimal.toRat ⟨false, 123456, -3⟩ / Decimal.toRat ⟨false, 1, -2⟩⌋₊ = 12345 := by
    decide +kernel
  have isDouble : (Decimal.floorTo ⟨false, 123456, -3⟩ ⟨false, 1, -2⟩).toFloat = 123.45 := by
    decide +kernel
  refine ⟨stepPositive, positive, finite, _, _, printed, by decide +kernel, usable,
    by decide +kernel, ?_, by rw [floored, isDouble]⟩
  rw [isFloor, count]
  decide +kernel

end Number

end OrderDesk

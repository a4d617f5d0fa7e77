import Mathlib.Logic.Basic
import Mathlib.Tactic.SplitIfs
import OrderDesk.Number.Step

/-!
# Comparing doubles

Doubles are compared as the standard says: NaN is neither less than anything nor greater,
and the two zeros are equal. So a test that a number is *not* out of bounds says that it is
within them only when none of the numbers is NaN, and that has to come from somewhere. Of
a number that was asked for it comes from a check that it is greater than zero. Of a number
that was computed it comes from how it was computed: what a decimal reads as is never NaN.
-/

namespace OrderDesk.Number

open Float.Model (UnpackedFloat Format pack)

variable {x y : Float}

/-! ## The order -/

/-- How two doubles compare. -/
def comparison (x y : Float) : Option Ordering := x.toModel.unpack.compare y.toModel.unpack

theorem lt_iff : x < y ↔ comparison x y = some .lt :=
  decide_eq_true_iff.trans beq_iff_eq

theorem le_iff : x ≤ y ↔ ∃ o, comparison x y = some o ∧ o.isLE = true :=
  decide_eq_true_iff.trans (Option.any_eq_true ..)

theorem beq_iff : (x == y) = true ↔ comparison x y = some .eq :=
  beq_iff_eq (a := x.toModel.unpack.compare y.toModel.unpack)

/-- The unpacked numbers that are NaN. -/
theorem unpacked_isNaN_iff {u : UnpackedFloat} : u.isNaN = true ↔ u = .notANumber := by
  cases u with
  | notANumber => exact ⟨fun _ => rfl, fun _ => rfl⟩
  | infinity | zero | finite =>
    constructor <;> intro h <;> cases h

theorem isNaN_iff : x.isNaN = true ↔ x.toModel.unpack = .notANumber := unpacked_isNaN_iff

/-- Two magnitudes are compared the other way round. -/
theorem compare_magnitudes (m n : Nat) (e f : Int) :
    (compare f e).then (compare n m) = ((compare e f).then (compare m n)).swap := by
  rw [Ordering.swap_then, Int.compare_swap, Nat.compare_swap]

theorem compare_magnitude_self (m : Nat) (e : Int) :
    (compare e e).then (compare m m) = .eq := by
  have exponents : compare e e = .eq := Std.ReflCmp.compare_self
  have mantissas : compare m m = .eq := Std.ReflCmp.compare_self
  rw [exponents, mantissas]
  rfl

/-- Comparing the other way round gives the opposite answer. -/
theorem comparison_swap (x y : Float) :
    comparison y x = (comparison x y).map Ordering.swap := by
  unfold comparison
  -- one of two finite numbers of the same sign has to be looked into
  rcases x.toModel.unpack with (_ | _) | _ | (_ | _) | ⟨_ | _, m, e, hm⟩ <;>
    rcases y.toModel.unpack with (_ | _) | _ | (_ | _) | ⟨_ | _, n, f, hn⟩ <;>
    first
    | rfl
    | exact congrArg some (compare_magnitudes m n e f)
    | exact congrArg (some ·.swap) (compare_magnitudes m n e f)

/-- A number equals itself, unless it is NaN. -/
theorem comparison_self (x : Float) : comparison x x = if x.isNaN then none else some .eq := by
  show x.toModel.unpack.compare x.toModel.unpack = if x.toModel.unpack.isNaN then _ else _
  rcases x.toModel.unpack with (_ | _) | _ | (_ | _) | ⟨_ | _, m, e, hm⟩ <;>
    first
    | rfl
    | exact congrArg some (compare_magnitude_self m e)
    | exact congrArg (some ·.swap) (compare_magnitude_self m e)

/-- **Only NaN does not compare.** -/
theorem comparison_eq_none_iff :
    comparison x y = none ↔ x.isNaN = true ∨ y.isNaN = true := by
  rw [isNaN_iff, isNaN_iff]
  show x.toModel.unpack.compare y.toModel.unpack = none ↔ _
  rcases x.toModel.unpack with (_ | _) | _ | (_ | _) | ⟨_ | _, m, e, hm⟩ <;>
    rcases y.toModel.unpack with (_ | _) | _ | (_ | _) | ⟨_ | _, n, f, hn⟩ <;>
    first
    | exact iff_of_true rfl (.inl rfl)
    | exact iff_of_true rfl (.inr rfl)
    | exact iff_of_false (by intro h; cases h) (by rintro (h | h) <;> cases h)

/-- Two numbers compare, unless one of them is NaN. -/
theorem comparison_ne_none (hx : x.isNaN = false) (hy : y.isNaN = false) :
    comparison x y ≠ none := by
  intro none
  rcases comparison_eq_none_iff.mp none with nan | nan
  · exact Bool.false_ne_true (hx.symm.trans nan)
  · exact Bool.false_ne_true (hy.symm.trans nan)

/-- What compares is not NaN. -/
theorem isNaN_of_comparison {o : Ordering} (h : comparison x y = some o) :
    x.isNaN = false ∧ y.isNaN = false := by
  have compares : ¬ (x.isNaN = true ∨ y.isNaN = true) := by
    rw [← comparison_eq_none_iff, h]
    exact Option.some_ne_none o
  rw [not_or] at compares
  exact ⟨Bool.eq_false_iff.mpr compares.1, Bool.eq_false_iff.mpr compares.2⟩

theorem not_lt_self (x : Float) : ¬ x < x := by
  rw [lt_iff, comparison_self]
  split <;> simp

/-- **What is not less** is not greater the other way round, unless there is a NaN. -/
theorem le_of_not_lt (hx : x.isNaN = false) (hy : y.isNaN = false) (h : ¬ x < y) : y ≤ x := by
  rw [lt_iff] at h
  rw [le_iff, comparison_swap x y]
  rcases compared : comparison x y with _ | _ | _ | _
  · exact absurd compared (comparison_ne_none hx hy)
  · exact absurd compared h
  · exact ⟨_, rfl, rfl⟩
  · exact ⟨_, rfl, rfl⟩

theorem lt_of_not_le (hx : x.isNaN = false) (hy : y.isNaN = false) (h : ¬ x ≤ y) : y < x := by
  rw [le_iff] at h
  rw [lt_iff, comparison_swap x y]
  rcases compared : comparison x y with _ | _ | _ | _
  · exact absurd compared (comparison_ne_none hx hy)
  · exact absurd ⟨_, compared, rfl⟩ h
  · exact absurd ⟨_, compared, rfl⟩ h
  · rfl

theorem not_lt_of_le (h : x ≤ y) : ¬ y < x := by
  intro less
  obtain ⟨o, compared, isLE⟩ := le_iff.mp h
  rw [comparison_swap, lt_iff.mp less] at compared
  cases compared
  cases isLE

/-- What is less than something is not NaN, and neither is that. -/
theorem isNaN_of_lt (h : x < y) : x.isNaN = false ∧ y.isNaN = false :=
  isNaN_of_comparison (lt_iff.mp h)

theorem unpack_zero : (0.0 : Float).toModel.unpack = .zero .positive := rfl

theorem eq_zero_of_compare {u : UnpackedFloat} (h : u.compare (.zero .positive) = some .eq) :
    ∃ sign, u = .zero sign := by
  rcases u with (_ | _) | _ | sign | ⟨_ | _, m, e, hm⟩
  case zero => exact ⟨sign, rfl⟩
  all_goals cases h

/-- **The two zeros compare alike.** -/
theorem comparison_of_zero (h : (x == 0.0) = true) (y : Float) :
    comparison x y = comparison 0.0 y := by
  obtain ⟨sign, isZero⟩ := eq_zero_of_compare (beq_iff.mp h)
  unfold comparison
  rw [isZero, unpack_zero]
  rcases sign with _ | _ <;>
    rcases y.toModel.unpack with (_ | _) | _ | _ | ⟨_ | _, m, e, hm⟩ <;> rfl

/-- What is above zero is not zero. -/
theorem beq_zero_of_pos (h : 0.0 < x) : (x == 0.0) = false := by
  rw [lt_iff, comparison_swap] at h
  rw [Bool.eq_false_iff]
  intro zero
  rw [beq_iff.mp zero] at h
  cases h

/-- What is not at most zero is not zero. -/
theorem beq_zero_of_not_le (h : ¬ x ≤ 0.0) : (x == 0.0) = false := by
  rw [Bool.eq_false_iff]
  exact fun zero => h (le_iff.mpr ⟨.eq, beq_iff.mp zero, rfl⟩)

/-- What is above zero is unpacked to a number other than zero. -/
theorem unpack_of_pos (h : 0.0 < x) :
    x.toModel.unpack ≠ .notANumber ∧ ∀ sign, x.toModel.unpack ≠ .zero sign := by
  rw [lt_iff] at h
  unfold comparison at h
  rw [unpack_zero] at h
  constructor
  · intro isNaN
    rw [isNaN] at h
    cases h
  · intro sign isZero
    rw [isZero] at h
    cases h

/-! ## NaN -/

/-- The patterns that are NaN. -/
theorem nan_of_unpack {b : BitVec Format.binary64.numBits}
    (h : UnpackedFloat.unpack .binary64 b = .notANumber) :
    UnpackedFloat.unpackExponent b = -1#_ ∧ UnpackedFloat.unpackMantissa b ≠ 0#_ := by
  unfold UnpackedFloat.unpack at h
  dsimp only at h
  rcases ite_eq_iff.mp h with ⟨exponent, h⟩ | ⟨_, h⟩
  · rcases ite_eq_iff.mp h with ⟨_, infinite⟩ | ⟨mantissa, _⟩
    · cases infinite
    · exact ⟨exponent, mantissa⟩
  · rcases ite_eq_iff.mp h with ⟨_, h⟩ | ⟨_, finite⟩
    · rcases dite_eq_iff.mp h with ⟨_, zero⟩ | ⟨_, finite⟩
      · cases zero
      · cases finite
    · cases finite

/-- **A number is packed as a number.** -/
theorem unpack_pack_ne_nan {u : UnpackedFloat} (h : u ≠ .notANumber) :
    (pack u).unpack ≠ .notANumber := by
  intro isNaN
  have pattern := nan_of_unpack isNaN
  revert pattern
  show ¬ (UnpackedFloat.unpackExponent (UnpackedFloat.pack .binary64 u) = _
    ∧ UnpackedFloat.unpackMantissa (UnpackedFloat.pack .binary64 u) ≠ _)
  fun_cases UnpackedFloat.pack .binary64 u with
  | case1 => exact absurd rfl h
  | case2 => simp [UnpackedFloat.packedInfinity]
  | case3 => simp [UnpackedFloat.packedZero]
  | case4 => simp [UnpackedFloat.packedInfinity]
  | case5 sign m e pos digits exponent fits =>
    -- the exponent of a finite number is below the greatest one
    rintro ⟨greatest, -⟩
    rw [UnpackedFloat.unpackExponent_packComponents] at greatest
    have := congrArg BitVec.toNat greatest
    simp only [BitVec.toNat_ofNat] at this
    simp at this
    change ¬ 2048 ≤ _ at fits
    omega
  | case6 => simp 

/-- A finite number other than zero. -/
def IsProper : UnpackedFloat → Bool
  | .finite .. => true
  | _ => false

section

variable {u v : UnpackedFloat}

/-- What is rounded is a number. -/
theorem roundWithAccuracy_ne_nan (sign : UnpackedFloat.Sign) (m : Nat) (e : Int)
    (accuracy : UnpackedFloat.Accuracy) :
    UnpackedFloat.roundWithAccuracy .binary64 sign m e accuracy ≠ .notANumber := by
  intro isNaN
  unfold UnpackedFloat.roundWithAccuracy at isNaN
  rcases dite_eq_iff.mp isNaN with ⟨_, zero⟩ | ⟨_, finite⟩
  · cases zero
  · cases finite

theorem mul_ne_nan (hu : u ≠ .notANumber) (hv : IsProper v = true) :
    UnpackedFloat.mul .binary64 u v ≠ .notANumber := by
  rcases v with _ | _ | _ | ⟨t, n, f, hn⟩
  case finite =>
    rcases u with _ | _ | _ | ⟨s, m, e, hm⟩
    case notANumber => exact absurd rfl hu
    case finite => exact roundWithAccuracy_ne_nan _ _ _ _
    all_goals
      intro h
      cases h
  all_goals cases hv

/-- The product of two numbers, infinite ones among them, when neither is zero. -/
theorem mul_ne_nan_of_ne_zero (hu : u ≠ .notANumber) (hv : v ≠ .notANumber)
    (nonzero : ∀ sign, u ≠ .zero sign) (nonzero' : ∀ sign, v ≠ .zero sign) :
    UnpackedFloat.mul .binary64 u v ≠ .notANumber := by
  rcases v with t | _ | t | ⟨t, n, f, hn⟩
  case notANumber => exact absurd rfl hv
  case zero => exact absurd rfl (nonzero' t)
  case finite => exact mul_ne_nan hu rfl
  case infinity =>
    rcases u with s | _ | s | ⟨s, m, e, hm⟩
    case notANumber => exact absurd rfl hu
    case zero => exact absurd rfl (nonzero s)
    all_goals
      intro h
      cases h

theorem div_ne_nan (hu : u ≠ .notANumber) (hv : IsProper v = true) :
    UnpackedFloat.div .binary64 u v ≠ .notANumber := by
  rcases v with _ | _ | _ | ⟨t, n, f, hn⟩
  case finite =>
    rcases u with _ | _ | _ | ⟨s, m, e, hm⟩
    case notANumber => exact absurd rfl hu
    case finite => exact roundWithAccuracy_ne_nan _ _ _ _
    all_goals
      intro h
      cases h
  all_goals cases hv

/-- A whole number is a number. -/
theorem ofNat_ne_nan (n : Nat) : UnpackedFloat.ofNat .binary64 n ≠ .notANumber := by
  unfold UnpackedFloat.ofNat UnpackedFloat.ofInt UnpackedFloat.normalize
  split
  · exact roundWithAccuracy_ne_nan _ _ _ _
  · intro h
    cases h
  · exact roundWithAccuracy_ne_nan _ _ _ _

/-- A whole number times a power of ten is a number. -/
theorem ofScientific_ne_nan (m : Nat) (e : Int) :
    UnpackedFloat.ofScientific .binary64 m e ≠ .notANumber := by
  intro isNaN
  have finite {sign : UnpackedFloat.Sign} {m : Nat} {e : Int} {hm : 0 < m} :
      UnpackedFloat.finite sign m e hm ≠ .notANumber := by
    intro h
    cases h
  unfold UnpackedFloat.ofScientific at isNaN
  rcases dite_eq_iff.mp isNaN with ⟨_, zero⟩ | ⟨_, isNaN⟩
  · cases zero
  rcases ite_eq_iff.mp isNaN with ⟨_, infinite⟩ | ⟨_, isNaN⟩
  · cases infinite
  rcases ite_eq_iff.mp isNaN with ⟨_, zero⟩ | ⟨_, isNaN⟩
  · cases zero
  rcases ite_eq_iff.mp isNaN with ⟨_, product⟩ | ⟨_, quotient⟩
  · exact mul_ne_nan finite rfl product
  · exact div_ne_nan finite rfl quotient

/-- The powers of ten that are kept are finite. -/
theorem isProper_powersOfTen : ∀ i : Fin 23,
    IsProper (Float.exactlyRepresentablePowersOfTen[i]).toModel.unpack = true := by
  decide

end

theorem isNaN_eq_false (h : x.toModel.unpack ≠ .notANumber) : x.isNaN = false := by
  rw [Bool.eq_false_iff]
  exact fun isNaN => h (isNaN_iff.mp isNaN)

/-- **The product of two numbers above zero is a number.** -/
theorem isNaN_mul_of_pos (hx : 0.0 < x) (hy : 0.0 < y) : (x * y).isNaN = false := by
  obtain ⟨number, nonzero⟩ := unpack_of_pos hx
  obtain ⟨number', nonzero'⟩ := unpack_of_pos hy
  exact isNaN_eq_false (unpack_pack_ne_nan
    (mul_ne_nan_of_ne_zero number number' nonzero nonzero'))

/-- **A whole number times a power of ten reads as a number.** -/
theorem isNaN_ofScientific (m : Nat) (negative : Bool) (e : Nat) :
    (Float.ofScientific m negative e).isNaN = false := by
  refine isNaN_eq_false ?_
  unfold Float.ofScientific
  split
  case isTrue small =>
    have whole : m.toUInt64.toFloat.toModel.unpack ≠ .notANumber :=
      unpack_pack_ne_nan (ofNat_ne_nan _)
    have power := isProper_powersOfTen ⟨e, Nat.lt_succ_of_le small.2⟩
    cases negative
    · exact unpack_pack_ne_nan (mul_ne_nan whole power)
    · exact unpack_pack_ne_nan (div_ne_nan whole power)
  case isFalse =>
    exact unpack_pack_ne_nan (ofScientific_ne_nan _ _)

/-- The opposite of a number is a number. -/
theorem isNaN_neg (h : x.isNaN = false) : (-x).isNaN = false := by
  refine isNaN_eq_false (unpack_pack_ne_nan ?_)
  have isNumber : x.toModel.unpack ≠ .notANumber := by
    rw [Ne, ← isNaN_iff, h]
    exact Bool.false_ne_true
  rcases unpacked : x.toModel.unpack with _ | _ | _ | _
  case notANumber => exact absurd unpacked isNumber
  all_goals exact fun h => nomatch h

namespace Decimal

theorem isNaN_magnitudeToFloat (c : Nat) (e : Int) : (magnitudeToFloat c e).isNaN = false := by
  unfold magnitudeToFloat
  dsimp only
  split_ifs
  · exact isNaN_ofScientific ..
  · decide
  · exact isNaN_ofScientific ..
  · exact isNaN_ofScientific ..
  · exact isNaN_ofScientific ..

/-- **What a decimal reads as is a number.** -/
theorem isNaN_toFloat (d : Decimal) : d.toFloat.isNaN = false := by
  unfold toFloat
  dsimp only
  split
  · exact isNaN_neg (isNaN_magnitudeToFloat ..)
  · exact isNaN_magnitudeToFloat ..

end Decimal

/-- The exponent of a double, read off its pattern. -/
theorem toNat_unpackExponent (b : BitVec Format.binary64.numBits) :
    (UnpackedFloat.unpackExponent b).toNat = b.toNat / twoTo 52 % 2048 := by
  unfold UnpackedFloat.unpackExponent
  rw [BitVec.toNat_cast, BitVec.extractLsb_toNat, Nat.shiftRight_eq_div_pow]
  rfl

/-- **A finite double has an exact value.** -/
theorem Binary.isSome_ofFloat? (h : x.isFinite = true) : (Binary.ofFloat? x).isSome = true := by
  unfold Binary.ofFloat?
  dsimp only
  split
  case isTrue greatest =>
    have exponent : @UnpackedFloat.unpackExponent .binary64 x.toBits.toBitVec = -1#_ :=
      BitVec.eq_of_toNat_eq ((toNat_unpackExponent _).trans (beq_iff_eq.mp greatest))
    have finite : (UnpackedFloat.unpack .binary64 x.toBits.toBitVec).isFinite = true := h
    unfold UnpackedFloat.unpack at finite
    dsimp only at finite
    rw [if_pos exponent] at finite
    split at finite <;> cases finite
  case isFalse => split <;> rfl

end OrderDesk.Number

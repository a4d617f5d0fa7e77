import OrderDesk.Proofs.Doubles
import OrderDesk.Proofs.Preparation

/-!
# Numbers that a market takes

A market states steps and limits for amounts and for prices, and an order is measured by
them before it is sent. What passes is positive, a multiple of the step and within the
limits, provided that the number asked for was positive, which requests are read for, and
that the step is a number, which nobody looks at. A limit that is NaN bounds nothing.

A price that is no limit of the order is measured in the same way, but then the floored
price is dropped.
-/

namespace OrderDesk

/-! ## Steps -/

/-- **A double is a multiple of a step** when it is what a whole count of steps reads as,
in decimal arithmetic. -/
def Number.Decimal.IsMultiple (step : Number.Decimal) (x : Float) : Prop :=
  ∃ count : Number.Decimal, count.exponent = 0 ∧ x = (count.mul step).toFloat

namespace Step

open Number (Decimal)

/-- The step as a decimal, when it is of use: finite and above zero. -/
def usable? : Step → Option Decimal
  | .whole n => if n == 0 then none else some (.ofNat n)
  | .real s => if s ≤ 0.0 then none else Decimal.ofFloat? s

/-- The step is not NaN. -/
def isNumber : Step → Bool
  | .whole _ => true
  | .real s => !s.isNaN

end Step

namespace Number

variable {value x : Float}

/-- **What is floored by decimal arithmetic** is a number, and a multiple of the step when
it is finite. -/
theorem floorByDecimal_multiple (step : Decimal) (number : value.isNaN = false) :
    (floorByDecimal value step).isNaN = false
      ∧ ((floorByDecimal value step).isFinite = true →
          step.IsMultiple (floorByDecimal value step)) := by
  unfold floorByDecimal
  cases decimal : Decimal.ofFloat? value with
  | none =>
    refine ⟨number, fun finite => ?_⟩
    obtain ⟨b, exact⟩ := Option.isSome_iff_exists.mp (Binary.isSome_ofFloat? finite)
    unfold Decimal.ofFloat? at decimal
    rw [exact] at decimal
    cases decimal
  | some v =>
    refine ⟨Decimal.isNaN_toFloat _, fun _ => ⟨(v.div step).floor, ?_, rfl⟩⟩
    unfold Decimal.floor
    dsimp only
    split <;> rfl

/-- **What is floored to a step.** Without a step that is of use nothing changes. -/
theorem floorToStep_multiple {step : Option Step} (h : floorToStep value step = .ok x)
    (number : value.isNaN = false) (steps : step.all Step.isNumber = true) :
    x.isNaN = false
      ∧ ∀ d, step.bind Step.usable? = some d → x.isFinite = true → d.IsMultiple x := by
  match step with
  | none =>
    cases h
    exact ⟨number, fun _ none => nomatch none⟩
  | some (.whole n) =>
    cases h
    rw [Option.bind_some]
    unfold Step.usable?
    dsimp only
    split
    · exact ⟨number, fun _ none => nomatch none⟩
    · obtain ⟨isNumber, multiple⟩ := floorByDecimal_multiple (.ofNat n) number
      exact ⟨isNumber, fun d same => Option.some.inj same ▸ multiple⟩
  | some (.real s) =>
    rw [Option.bind_some]
    unfold Step.usable?
    unfold floorToStep at h
    dsimp only at h ⊢
    split at h
    case isTrue unusable =>
      cases h
      rw [if_pos unusable]
      exact ⟨number, fun _ none => nomatch none⟩
    case isFalse positive =>
      rw [if_neg positive]
      cases decimal : Decimal.ofFloat? s with
      | some d =>
        rw [decimal] at h
        cases h
        obtain ⟨isNumber, multiple⟩ := floorByDecimal_multiple d number
        exact ⟨isNumber, fun d' same => Option.some.inj same ▸ multiple⟩
      | none =>
        -- an infinite step has no multiples, and is refused
        have isNumber : s.isNaN = false := by simpa [Step.isNumber] using steps
        rw [decimal, isNumber, number] at h
        cases h

end Number

/-! ## Markets -/

/-- **A number fits** a step and limits. -/
structure Fits (step : Option Step) (least greatest : Option Float) (x : Float) : Prop where
  positive : 0.0 < x
  /-- It is a multiple of the step, if there is one that is of use. -/
  multiple : ∀ d, step.bind Step.usable? = some d → x.isFinite = true → d.IsMultiple x
  /-- It is not below the least number. -/
  least : ∀ l, least = some l → l.isNaN = false → l ≤ x
  /-- It is not above the greatest number. -/
  greatest : ∀ g, greatest = some g → g.isNaN = false → x ≤ g

namespace Market

/-- An amount fits the market. -/
def FitsAmount (m : Market) (x : Float) : Prop := Fits m.amountStep m.minAmount m.maxAmount x

/-- A price fits the market. -/
def FitsPrice (m : Market) (x : Float) : Prop := Fits m.priceStep m.minPrice m.maxPrice x

/-- A number that is not refused by limits is not out of them. -/
theorem of_withinLimits {x : Float} {least greatest : Option Float}
    {below above : Float → Float → Refusal}
    (h : withinLimits x least greatest below above = .ok ()) :
    (∀ l, least = some l → ¬ x < l) ∧ ∀ g, greatest = some g → ¬ g < x := by
  unfold withinLimits at h
  split at h
  · cases h
  · cases h
  · rename_i notBelow notAbove
    refine ⟨fun l isLeast less => ?_, fun g isGreatest more => ?_⟩
    · rw [isLeast] at notBelow
      exact Option.filter_eq_none_iff.mp notBelow l rfl (decide_eq_true less)
    · rw [isGreatest] at notAbove
      exact Option.filter_eq_none_iff.mp notAbove g rfl (decide_eq_true more)

variable {value x : Float}

/-- **What a measurement lets pass** fits, when the step is a number. -/
theorem fits_of_measured {step : Option Step} {least greatest : Option Float} {why : Refusal}
    {below above : Float → Float → Refusal} (positive : 0.0 < value)
    (h : (do
      let y ← floored value step
      refuseIf (y ≤ 0.0) why
      withinLimits y least greatest below above
      return y : Except Failure Float) = .ok x) :
    Number.floorToStep value step = .ok x
      ∧ (step.all Step.isNumber = true → Fits step least greatest x) := by
  obtain ⟨y, isFloored, h⟩ := Run.ok_of_bind h
  obtain ⟨_, isPositive, h⟩ := Run.ok_of_bind h
  obtain ⟨_, isWithin, h⟩ := Run.ok_of_bind h
  cases h
  have isFloor : Number.floorToStep value step = .ok x := by
    unfold floored at isFloored
    cases result : Number.floorToStep value step with
    | error e =>
      rw [result] at isFloored
      cases isFloored
    | ok y =>
      rw [result] at isFloored
      cases isFloored
      rfl
  refine ⟨isFloor, fun steps => ?_⟩
  obtain ⟨number, multiple⟩ :=
    Number.floorToStep_multiple isFloor (Number.isNaN_of_lt positive).2 steps
  obtain ⟨least, greatest⟩ := of_withinLimits isWithin
  exact ⟨Number.lt_of_not_le number (by decide) (of_decide_eq_false (of_refuseIf isPositive)),
    multiple, fun l isLeast limit => Number.le_of_not_lt number limit (least l isLeast),
    fun g isGreatest limit => Number.le_of_not_lt limit number (greatest g isGreatest)⟩

/-- **A quantity that was checked** fits. -/
theorem fits_of_checkQuantity {m : Market} (positive : 0.0 < value)
    (h : m.checkQuantity value = .ok x) (steps : m.amountStep.all Step.isNumber = true) :
    m.FitsAmount x :=
  (fits_of_measured positive h).2 steps

/-- **A price that was checked** is floored to one that fits. -/
theorem fits_of_checkPrice {m : Market} (positive : 0.0 < value)
    (h : m.checkPrice value = .ok x) :
    Number.floorToStep value m.priceStep = .ok x
      ∧ (m.priceStep.all Step.isNumber = true → m.FitsPrice x) :=
  fits_of_measured positive h

end Market

/-! ## Forms -/

namespace Form

variable {α β : Type} {form : List (String × Payload)} {name : String}

namespace Checked

/-- Two parts of a form are good when the whole is. -/
theorem good_of_seq {f : Checked (α → β)} {x : Checked α} {b : β} (h : f <*> x = good b) :
    ∃ g a, f = good g ∧ x = good a ∧ g a = b := by
  cases f with
  | bad is => cases h
  | good g =>
    cases x with
    | bad is => cases h
    | good a =>
      cases h
      exact ⟨g, a, rfl, rfl, rfl⟩

/-- A form that passes a last check was good before. -/
theorem good_of_andCheck {x : Checked α} {check : α → Option Complaint} {a : α}
    (h : x.andCheck check = good a) : x = good a := by
  cases x with
  | bad is => cases h
  | good b =>
    unfold andCheck at h
    dsimp only at h
    cases complaint : check b with
    | none => rwa [complaint] at h
    | some c =>
      rw [complaint] at h
      cases h

end Checked

/-- A number that must be above zero is. -/
theorem pos_of_asPositive {p : Payload} {x : Float} (h : asPositive p = .ok x) : 0.0 < x := by
  obtain ⟨y, -, h⟩ := Run.ok_of_bind h
  split at h
  · cases h
    assumption
  · cases h

theorem of_inField {x : Except Complaint α} {a : α} (h : inField name x = .good a) :
    x = .ok a := by
  cases x with
  | error c => cases h
  | ok b =>
    cases h
    rfl

theorem pos_of_required {x : Float} (h : required form name asPositive = .good x) : 0.0 < x := by
  unfold required at h
  split at h
  · exact pos_of_asPositive (of_inField h)
  · cases h

theorem pos_of_optional {x : Option Float} (h : optional form name asPositive = .good x) :
    ∀ y, x = some y → 0.0 < y := by
  rintro y rfl
  unfold optional at h
  split at h
  · cases h
  · rename_i p _ _
    have read := of_inField h
    cases positive : asPositive p with
    | error c =>
      rw [positive] at read
      cases read
    | ok z =>
      rw [positive] at read
      cases read
      exact pos_of_asPositive positive
  · cases h

end Form

/-! ## Requests -/

namespace OrderRequest

/-- **A request for numbers above zero.** -/
structure IsPositive (r : OrderRequest) : Prop where
  quantity : 0.0 < r.quantity
  price : ∀ x, r.price = some x → 0.0 < x
  stopPrice : ∀ x, r.stopPrice = some x → 0.0 < x
  takeProfitPrice : ∀ x, r.takeProfitPrice = some x → 0.0 < x
  stopLossPrice : ∀ x, r.stopLossPrice = some x → 0.0 < x

/-- **A request that was read from a form** is for numbers above zero. -/
theorem isPositive_of_read {form : List (String × Payload)} {r : OrderRequest}
    (h : read form = .good r) : r.IsPositive := by
  have part₀ := Form.Checked.good_of_andCheck h
  obtain ⟨_, _, part₁, -, rfl⟩ := Form.Checked.good_of_seq part₀
  obtain ⟨_, _, part₂, -, rfl⟩ := Form.Checked.good_of_seq part₁
  obtain ⟨_, _, part₃, -, rfl⟩ := Form.Checked.good_of_seq part₂
  obtain ⟨_, _, part₄, stopLossPrice, rfl⟩ := Form.Checked.good_of_seq part₃
  obtain ⟨_, _, part₅, takeProfitPrice, rfl⟩ := Form.Checked.good_of_seq part₄
  obtain ⟨_, _, part₆, -, rfl⟩ := Form.Checked.good_of_seq part₅
  obtain ⟨_, _, part₇, -, rfl⟩ := Form.Checked.good_of_seq part₆
  obtain ⟨_, _, part₈, stopPrice, rfl⟩ := Form.Checked.good_of_seq part₇
  obtain ⟨_, _, part₉, price, rfl⟩ := Form.Checked.good_of_seq part₈
  obtain ⟨_, _, part₁₀, -, rfl⟩ := Form.Checked.good_of_seq part₉
  obtain ⟨_, _, part₁₁, -, rfl⟩ := Form.Checked.good_of_seq part₁₀
  obtain ⟨_, _, part₁₂, -, rfl⟩ := Form.Checked.good_of_seq part₁₁
  obtain ⟨_, _, part₁₃, quantity, rfl⟩ := Form.Checked.good_of_seq part₁₂
  obtain ⟨_, _, part₁₄, -, rfl⟩ := Form.Checked.good_of_seq part₁₃
  obtain ⟨_, _, part₁₅, -, rfl⟩ := Form.Checked.good_of_seq part₁₄
  obtain ⟨_, _, part₁₆, -, rfl⟩ := Form.Checked.good_of_seq part₁₅
  cases part₁₆
  exact ⟨Form.pos_of_required quantity, Form.pos_of_optional price,
    Form.pos_of_optional stopPrice, Form.pos_of_optional takeProfitPrice,
    Form.pos_of_optional stopLossPrice⟩

/-- **An order is measured by a market**: its amount and its limit are what the market
takes for those asked for. Without a limit, the price that its value is reckoned at floors
to one that the market takes. -/
structure Measured (r : OrderRequest) (m : Market) (v : ValidatedOrder) : Prop where
  amount : m.amountStep.all Step.isNumber = true → m.FitsAmount v.quantity
  /-- There is a limit only when one was asked for. -/
  asked : v.price.isSome = r.price.isSome
  limit : ∀ x, v.price = some x → m.priceStep.all Step.isNumber = true → m.FitsPrice x
  reckoned : v.referencePrice = r.reference v.price
  reference : ∀ x, r.price = none → r.reference none = some x →
    ∃ y, Number.floorToStep x m.priceStep = .ok y
      ∧ (m.priceStep.all Step.isNumber = true → m.FitsPrice y)

variable {r : OrderRequest}

/-- A number that is stated is given. -/
theorem of_stated {x : Option Float} {y : Float} (h : stated x = some y) : x = some y :=
  (Option.filter_eq_some_iff.mp h).1

/-- The price that a positive order without a limit is reckoned at. -/
theorem IsPositive.reference (h : r.IsPositive) {x : Float} (is : r.reference none = some x) :
    0.0 < x := by
  change (none <|> stated r.stopPrice <|> r.takeProfitPrice) = some x at is
  cases stop : stated r.stopPrice with
  | some y =>
    rw [stop] at is
    cases is
    exact h.stopPrice x (of_stated stop)
  | none =>
    rw [stop] at is
    exact h.takeProfitPrice x is

/-- A limit is checked when it is asked for. -/
theorem of_checkedPrice {m : Market} {limit : Option Float} (h : r.checkedPrice m = .ok limit) :
    (r.price = none ∧ limit = none)
    ∨ ∃ p x, r.price = some p ∧ m.checkPrice p = .ok x ∧ limit = some x := by
  unfold checkedPrice at h
  cases asked : r.price with
  | none =>
    rw [asked] at h
    cases h
    exact .inl ⟨rfl, rfl⟩
  | some p =>
    rw [asked] at h
    dsimp only at h
    cases checked : m.checkPrice p with
    | error e =>
      rw [checked] at h
      cases h
    | ok x =>
      rw [checked] at h
      cases h
      exact .inr ⟨p, x, rfl, checked, rfl⟩

/-- Without a limit, the price that the value is reckoned at is checked. -/
theorem of_checkReference {m : Market} {quantity p : Float}
    (h : r.checkReference m quantity none = .ok ()) (is : r.reference none = some p) :
    ∃ y, m.checkPrice p = .ok y := by
  unfold checkReference at h
  rw [is] at h
  obtain ⟨y, checked, -⟩ := Run.ok_of_bind h
  exact ⟨y, checked⟩

/-- **Validation measures**: the first market with the symbol decides. -/
theorem measured_of_validate {symbol : String} {markets : List Market} {v : ValidatedOrder}
    (positive : r.IsPositive) (h : r.validate symbol markets = .ok v) :
    markets.find? (·.symbol.isText symbol) = some v.market ∧ r.Measured v.market v := by
  obtain ⟨m, found, h⟩ := Run.ok_of_bind h
  obtain ⟨_, -, h⟩ := Run.ok_of_bind h
  obtain ⟨quantity, checked, h⟩ := Run.ok_of_bind h
  obtain ⟨limit, priced, h⟩ := Run.ok_of_bind h
  obtain ⟨_, reckoned, h⟩ := Run.ok_of_bind h
  cases h
  have isFirst : markets.find? (·.symbol.isText symbol) = some m := by
    unfold Market.find at found
    split at found
    · cases found
      assumption
    · cases found
  have amount := Market.fits_of_checkQuantity positive.quantity checked
  refine ⟨isFirst, ?_⟩
  rcases of_checkedPrice priced with ⟨unasked, rfl⟩ | ⟨p, x, asked, passes, rfl⟩
  · refine ⟨amount, by rw [unasked], fun _ none => (nomatch none), rfl, fun x _ is => ?_⟩
    obtain ⟨y, passes⟩ := of_checkReference reckoned is
    exact ⟨y, Market.fits_of_checkPrice (positive.reference is) passes⟩
  · refine ⟨amount, by rw [asked]; rfl, fun y same => ?_, rfl, fun _ unasked => ?_⟩
    · cases same
      exact (Market.fits_of_checkPrice (positive.price p asked) passes).2
    · rw [asked] at unasked
      cases unasked

end OrderRequest

end OrderDesk

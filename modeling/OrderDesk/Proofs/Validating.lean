import OrderDesk.Proofs.Measured
import OrderDesk.Proofs.Single

/-!
# What a validated order is

A validated order is a promise about a market: the amount and the limit are such as the
market takes, and the order is worth enough. A validation keeps the promise by refusing,
and it refuses what compares as too small or too great. So what it lets pass is not yet
within the limits, but only not outside of them, and the difference is NaN.

A request asks for numbers above zero, and none of them is NaN. What is computed of them is
a number too: flooring gives one, unless the step is NaN, and so does the product of two
numbers above zero, even when one of them is infinite. What remains are the limits of the
market, and a limit that is NaN bounds nothing.

The value of an order is reckoned at its limit or, without one, at its stop price or its
profit target. Zero counts as no limit there, but a limit is never zero once it was checked.
Only a price that is not the limit is floored and measured for this purpose. The limit is
not floored again: it was read as a double after it was floored, and flooring that double
may give the multiple below.
-/

namespace OrderDesk

open Market (of_refuseIf)

namespace Market

variable {m : Market} {value x : Float}

/-- A price that was checked is not zero. -/
theorem nonzero_of_checkPrice (h : m.checkPrice value = .ok x) : (x == 0.0) = false := by
  obtain ⟨y, -, h⟩ := Run.ok_of_bind h
  obtain ⟨_, refused, h⟩ := Run.ok_of_bind h
  obtain ⟨_, -, h⟩ := Run.ok_of_bind h
  cases h
  exact Number.beq_zero_of_not_le (of_decide_eq_false (of_refuseIf refused))

/-- A value that was checked is not below the least one. -/
theorem of_checkValue {quantity : Float} (h : m.checkValue quantity value = .ok ()) :
    ∀ l, m.minCost = some l → ¬ quantity * value < l := by
  intro l isLeast less
  unfold checkValue isBelow at h
  rw [isLeast, Option.filter_some, if_pos (decide_eq_true less)] at h
  cases h

end Market

namespace OrderRequest

variable {r : OrderRequest} {symbol : String} {markets : List Market} {v : ValidatedOrder}

/-- **What was checked** before an order was given as validated. -/
structure Checks (r : OrderRequest) (symbol : String) (v : ValidatedOrder) : Prop where
  named : v.symbol = symbol
  active : v.market.active = true
  limit : r.checkedPrice v.market = .ok v.price
  reference : v.referencePrice = r.reference v.price
  value : r.checkReference v.market v.quantity v.price = .ok ()

theorem checks_of_validate (h : r.validate symbol markets = .ok v) : r.Checks symbol v := by
  obtain ⟨m, -, h⟩ := Run.ok_of_bind h
  obtain ⟨_, suspended, h⟩ := Run.ok_of_bind h
  obtain ⟨quantity, -, h⟩ := Run.ok_of_bind h
  obtain ⟨limit, priced, h⟩ := Run.ok_of_bind h
  obtain ⟨_, reckoned, h⟩ := Run.ok_of_bind h
  cases h
  exact ⟨rfl, by simpa using of_refuseIf suspended, priced, rfl, reckoned⟩

/-- A number above zero is stated. -/
theorem stated_of_pos {x : Option Float} (h : ∀ y, x = some y → 0.0 < y) : stated x = x := by
  cases x with
  | none => rfl
  | some y =>
    unfold stated
    rw [Option.filter_some, Number.beq_zero_of_pos (h y rfl)]
    rfl

/-- A limit that was checked is stated. -/
theorem Checks.stated_price (h : r.Checks symbol v) : stated v.price = v.price := by
  rcases of_checkedPrice h.limit with ⟨-, none⟩ | ⟨p, x, -, checked, is⟩
  · rw [none]
    rfl
  · rw [is]
    unfold stated
    rw [Option.filter_some, Market.nonzero_of_checkPrice checked]
    rfl

/-- **The price that the value is reckoned at** is the limit, else the stop price, else the
profit target: none of them is zero. -/
theorem Checks.reference_eq (h : r.Checks symbol v) (positive : r.IsPositive) :
    v.referencePrice = (v.price <|> r.stopPrice <|> r.takeProfitPrice) := by
  rw [h.reference]
  unfold OrderRequest.reference
  rw [h.stated_price, stated_of_pos positive.stopPrice]

/-- The value of the order is not below the least one. -/
theorem Checks.not_below (h : r.Checks symbol v) {x l : Float}
    (reckoned : v.referencePrice = some x) (isLeast : v.market.minCost = some l) :
    ¬ v.quantity * x < l := by
  have value := h.value
  unfold checkReference at value
  rw [← h.reference, reckoned] at value
  dsimp only at value
  split at value
  · obtain ⟨_, -, value⟩ := Run.ok_of_bind value
    exact Market.of_checkValue value l isLeast
  · exact Market.of_checkValue value l isLeast

/-- **A validated order is sound.** Its amount and its limit fit the first market with the
symbol, which is open, and it is worth enough there. -/
structure Sound (r : OrderRequest) (symbol : String) (markets : List Market)
    (v : ValidatedOrder) : Prop where
  named : v.symbol = symbol
  /-- The first market with the symbol decides. -/
  first : markets.find? (·.symbol.isText symbol) = some v.market
  active : v.market.active = true
  amount : v.market.amountStep.all Step.isNumber = true → v.market.FitsAmount v.quantity
  /-- There is a limit exactly when one was asked for. -/
  unlimited : v.price = none ↔ r.price = none
  limit : ∀ x, v.price = some x → v.market.priceStep.all Step.isNumber = true →
    v.market.FitsPrice x
  /-- The price that the value of the order is reckoned at. -/
  reference : v.referencePrice = (v.price <|> r.stopPrice <|> r.takeProfitPrice)
  /-- When this price is not the limit, it is floored to one that fits. -/
  floored : ∀ x, v.price = none → v.referencePrice = some x →
    ∃ y, Number.floorToStep x v.market.priceStep = .ok y
      ∧ (v.market.priceStep.all Step.isNumber = true → v.market.FitsPrice y)
  /-- The order is worth at least the least value. -/
  value : ∀ x l, v.referencePrice = some x → v.market.minCost = some l → l.isNaN = false →
    v.market.amountStep.all Step.isNumber = true →
    v.market.priceStep.all Step.isNumber = true → l ≤ v.quantity * x

/-- **Validation is sound**, for every request that can be read from a form, whatever the
markets are. -/
theorem validation_is_sound {form : List (String × Payload)}
    (read : OrderRequest.read form = .good r) (h : r.validate symbol markets = .ok v) :
    r.Sound symbol markets v := by
  have positive := isPositive_of_read read
  obtain ⟨first, measured⟩ := measured_of_validate positive h
  have checks := checks_of_validate h
  have unlimited : v.price = none ↔ r.price = none := by
    rw [← Option.isNone_iff_eq_none, ← Option.isNone_iff_eq_none, ← Option.not_isSome,
      ← Option.not_isSome, measured.asked]
  have reference := checks.reference_eq positive
  refine ⟨checks.named, first, checks.active, measured.amount, unlimited, measured.limit,
    reference, fun x none reckoned => ?_, fun x l reckoned isLeast limit steps ticks => ?_⟩
  · refine measured.reference x (unlimited.mp none) ?_
    rw [← none, ← measured.reckoned, reckoned]
  · -- both factors are above zero, so the product can be compared
    have above : 0.0 < x := by
      cases limited : v.price with
      | some y =>
        rw [reference, limited] at reckoned
        cases reckoned
        exact (measured.limit x limited ticks).positive
      | none =>
        rw [measured.reckoned, limited] at reckoned
        exact positive.reference reckoned
    have number := Number.isNaN_mul_of_pos (measured.amount steps).positive above
    exact Number.le_of_not_lt number limit (checks.not_below reckoned isLeast)

/-! ## One limit order -/

/-- A market with steps and limits. -/
def steppedMarket : Market where
  symbol := .text "BTC/USDT"
  base := .text "BTC"
  quote := .text "USDT"
  active := true
  minAmount := some 0.001
  maxAmount := some 1000.0
  minPrice := some 0.01
  maxPrice := some 1000000.0
  minCost := some 10.0
  amountStep := some (.real 0.001)
  priceStep := some (.real 0.01)
  maker := none
  taker := none

/-- One coin at a limit between two ticks. -/
def limitCoin : OrderRequest := { Desk.oneCoin with type := .limit, price := some 100.005 }

/-- A request that is validated, by what the validated order is like. -/
theorem of_validates {m : Market} {check : ValidatedOrder → Bool}
    (h : (r.validate "BTC/USDT" [m]).toOption.any check = true) :
    ∃ v, r.validate "BTC/USDT" [m] = .ok v ∧ check v = true := by
  cases validated : r.validate "BTC/USDT" [m] with
  | error e =>
    rw [validated] at h
    cases h
  | ok v =>
    rw [validated] at h
    exact ⟨v, rfl, h⟩

/-- The limit is floored to the tick below. -/
theorem validation_is_sound_limitCoin : ∃ v,
    OrderRequest.read limitCoin.toForm = .good limitCoin
    ∧ limitCoin.validate "BTC/USDT" [steppedMarket] = .ok v
    ∧ v.price = some 100.0
    ∧ limitCoin.Sound "BTC/USDT" [steppedMarket] v := by
  have read : OrderRequest.read limitCoin.toForm = .good limitCoin := rfl
  have passes : (limitCoin.validate "BTC/USDT" [steppedMarket]).toOption.any
      (fun v => decide (v.price = some 100.0)) = true := by
    decide +kernel
  obtain ⟨v, validated, floored⟩ := of_validates passes
  exact ⟨v, read, validated, of_decide_eq_true floored, validation_is_sound read validated⟩

end OrderRequest

/-! ## What is not promised -/

/-- **A number is between limits**, and above zero. -/
structure Between (least greatest : Option Float) (x : Float) : Prop where
  positive : 0.0 < x
  least : ∀ l, least = some l → l ≤ x
  greatest : ∀ g, greatest = some g → x ≤ g

namespace OrderRequest

/-- **A validated order is sound throughout**: whatever the steps and the limits of the market
are, NaN among them, the amount and the limit are between the limits, and the price that the
value is reckoned at is floored to one that is. -/
structure SoundThroughout (r : OrderRequest) (symbol : String) (markets : List Market)
    (v : ValidatedOrder) : Prop where
  first : markets.find? (·.symbol.isText symbol) = some v.market
  active : v.market.active = true
  amount : Between v.market.minAmount v.market.maxAmount v.quantity
  unlimited : v.price = none ↔ r.price = none
  limit : ∀ x, v.price = some x → Between v.market.minPrice v.market.maxPrice x
  reference : v.referencePrice = (v.price <|> r.stopPrice <|> r.takeProfitPrice)
  floored : ∀ x, v.referencePrice = some x →
    ∃ y, Number.floorToStep x v.market.priceStep = .ok y
      ∧ Between v.market.minPrice v.market.maxPrice y
  value : ∀ x l, v.referencePrice = some x → v.market.minCost = some l → l ≤ v.quantity * x

/-- One coin at a limit so high that doubles are further apart than ones. -/
def highLimit : OrderRequest :=
  { Desk.oneCoin with type := .limit, price := some 9007199254741006.0 }

/-- A market with a tick of five, and with a least price that is no multiple of it. -/
def oddMarket : Market :=
  { steppedMarket with
    minPrice := some 9007199254741002.0
    maxPrice := none
    priceStep := some (.real 5.0) }

/-- The price that the value of an order is reckoned at is floored below the least price. -/
def flooredBelow (v : ValidatedOrder) : Bool :=
  v.referencePrice.any fun x => (Number.floorToStep x v.market.priceStep).toOption.any fun y =>
    v.market.minPrice.any fun l => y < l

/-- **What validation does not promise**: that a limit which was floored stays within the
limits when it is floored again, anything of an amount when the step is NaN, and anything of
a limit of the market that is NaN. -/
theorem not_sound_throughout :
    (∀ r ∈ [highLimit, Desk.oneCoin], OrderRequest.read r.toForm = .good r)
    ∧ (∃ v, highLimit.validate "BTC/USDT" [oddMarket] = .ok v
      ∧ ¬ highLimit.SoundThroughout "BTC/USDT" [oddMarket] v)
    ∧ ∀ m ∈ [{ steppedMarket with amountStep := some (.real (0.0 / 0.0)) },
        { steppedMarket with minAmount := some (0.0 / 0.0) }],
      ∃ v, Desk.oneCoin.validate "BTC/USDT" [m] = .ok v
        ∧ ¬ Desk.oneCoin.SoundThroughout "BTC/USDT" [m] v := by
  refine ⟨fun r mem => ?_, ?_, fun m mem => ?_⟩
  · simp only [List.mem_cons, List.not_mem_nil, or_false] at mem
    rcases mem with rfl | rfl <;> rfl
  · have passes : (highLimit.validate "BTC/USDT" [oddMarket]).toOption.any flooredBelow = true := by
      decide +kernel
    obtain ⟨v, validated, below⟩ := of_validates passes
    refine ⟨v, validated, fun sound => ?_⟩
    obtain ⟨x, reckoned, below⟩ := (Option.any_eq_true ..).mp below
    obtain ⟨y, floored, between⟩ := sound.floored x reckoned
    rw [floored] at below
    change v.market.minPrice.any (fun l => decide (y < l)) = true at below
    obtain ⟨l, isLeast, below⟩ := (Option.any_eq_true ..).mp below
    exact Number.not_lt_of_le (between.least l isLeast) (of_decide_eq_true below)
  · simp only [List.mem_cons, List.not_mem_nil, or_false] at mem
    rcases mem with rfl | rfl
    · have passes : (Desk.oneCoin.validate "BTC/USDT"
          [{ steppedMarket with amountStep := some (.real (0.0 / 0.0)) }]).toOption.any
            (·.quantity.isNaN) = true := by
        decide +kernel
      obtain ⟨v, validated, isNaN⟩ := of_validates passes
      refine ⟨v, validated, fun sound => ?_⟩
      rw [(Number.isNaN_of_lt sound.amount.positive).2] at isNaN
      cases isNaN
    · have passes : (Desk.oneCoin.validate "BTC/USDT"
          [{ steppedMarket with minAmount := some (0.0 / 0.0) }]).toOption.any
            (·.market.minAmount.any Float.isNaN) = true := by
        decide +kernel
      obtain ⟨v, validated, isNaN⟩ := of_validates passes
      refine ⟨v, validated, fun sound => ?_⟩
      obtain ⟨l, isLeast, isNaN⟩ := (Option.any_eq_true ..).mp isNaN
      obtain ⟨o, compared, -⟩ := Number.le_iff.mp (sound.amount.least l isLeast)
      rw [(Number.isNaN_of_comparison compared).1] at isNaN
      cases isNaN

end OrderRequest

end OrderDesk

import OrderDesk.Failure
import OrderDesk.Order.Request
import OrderDesk.Venue.Capability
import OrderDesk.Venue.Market

/-!
# Validation against a market

Before anything is sent to a venue, an order is measured against the market it is meant
for: amounts and prices are floored to the venue's steps and must then lie within its
limits, and so must the value of the order.
-/

namespace OrderDesk

/-- An order that a market takes. -/
structure ValidatedOrder where
  symbol : String
  /-- The quantity, floored to the market's step. -/
  quantity : Float
  /-- The limit, floored to the market's step. -/
  price : Option Float
  /-- The price that the value of the order is reckoned at, when there is one. -/
  referencePrice : Option Float
  market : Market

namespace Market

/-- A floored number as a step in a validation. -/
def floored (value : Float) (step : Option Step) : Except Failure Float :=
  (Number.floorToStep value step).mapError .fault

/-- A refusal when a condition holds. -/
def refuseIf (condition : Bool) (why : Refusal) : Except Failure Unit :=
  if condition then .error (.refused why) else .ok ()

/-- A number lies below a limit that may not be set. -/
def isBelow (x : Float) (limit : Option Float) : Option Float := limit.filter fun l => x < l

/-- A number lies above a limit that may not be set. -/
def isAbove (x : Float) (limit : Option Float) : Option Float := limit.filter fun l => l < x

/-- Refusals by limits: at most one of the two applies to a number. -/
def withinLimits (x : Float) (least greatest : Option Float)
    (below above : Float → Float → Refusal) : Except Failure Unit :=
  match isBelow x least, isAbove x greatest with
  | some l, _ => .error (.refused (below x l))
  | none, some g => .error (.refused (above x g))
  | none, none => .ok ()

/-- The quantity that the market takes for the one asked for. -/
def checkQuantity (m : Market) (quantity : Float) : Except Failure Float := do
  let x ← floored quantity m.amountStep
  refuseIf (x ≤ 0.0) (.quantityBelowStep quantity m.amountStep)
  withinLimits x m.minAmount m.maxAmount .quantityBelowMinimum .quantityAboveMaximum
  return x

/-- The price that the market takes for the one asked for. -/
def checkPrice (m : Market) (price : Float) : Except Failure Float := do
  let x ← floored price m.priceStep
  refuseIf (x ≤ 0.0) (.priceBelowStep price m.priceStep)
  withinLimits x m.minPrice m.maxPrice .priceBelowMinimum .priceAboveMaximum
  return x

/-- The value of an order is not too small. -/
def checkValue (m : Market) (quantity price : Float) : Except Failure Unit :=
  match isBelow (quantity * price) m.minCost with
  | some l => .error (.refused (.valueBelowMinimum (quantity * price) l))
  | none => .ok ()

/-- The market for a symbol among several. -/
def find (markets : List Market) (symbol : String) : Except Failure Market :=
  match markets.find? fun m => m.symbol.isText symbol with
  | some m => .ok m
  | none => .error (.refused (.unknownMarket symbol))

end Market

namespace OrderRequest

/-- A number that is given and not zero. -/
def stated (x : Option Float) : Option Float := x.filter fun v => !(v == 0.0)

/-- The limit that a market takes for the one asked for, if one was. -/
def checkedPrice (r : OrderRequest) (m : Market) : Except Failure (Option Float) :=
  match r.price with
  | some p => some <$> m.checkPrice p
  | none => pure none

/-- The price that the value of an order is reckoned at: its limit or, without one, its
stop price or its profit target. -/
def reference (r : OrderRequest) (limit : Option Float) : Option Float :=
  stated limit <|> stated r.stopPrice <|> r.takeProfitPrice

/-- The value of an order is not too small. A price other than the limit must be one that
the market takes. -/
def checkReference (r : OrderRequest) (m : Market) (quantity : Float)
    (limit : Option Float) : Except Failure Unit :=
  match r.reference limit with
  | some p => do
    if limit.isNone then
      let _ ← m.checkPrice p
    m.checkValue quantity p
  | none => pure ()

/-- **Validation.** The first market with the symbol decides. -/
def validate (r : OrderRequest) (symbol : String) (markets : List Market) :
    Except Failure ValidatedOrder := do
  let m ← Market.find markets symbol
  Market.refuseIf (!m.active) (.suspended symbol)
  let quantity ← m.checkQuantity r.quantity
  let limit ← r.checkedPrice m
  r.checkReference m quantity limit
  return ⟨symbol, quantity, limit, r.reference limit, m⟩

/-- The venue takes orders of this type. -/
def ensureSupported (slug : String) (type : OrderType) : Except Failure Unit :=
  Market.refuseIf (!Venue.supports slug type) (.unsupportedType type slug)

/-- The fields that an order type needs are there. -/
def ensureComplete (r : OrderRequest) : Except Failure Unit := do
  let type := r.type
  Market.refuseIf ((type == .limit || type == .stopLimit) && r.price.isNone)
    (.priceRequired type)
  Market.refuseIf ((type == .stopLoss || type == .stopLimit) && r.stopPrice.isNone)
    (.stopPriceRequired type)
  Market.refuseIf
    (type == .trailingStop && (r.trailingAmount.isNone || r.trailingType.isNone))
    .trailingRequired
  Market.refuseIf (type == .takeProfit && r.takeProfitPrice.isNone) .targetRequired
  Market.refuseIf (type == .oco && (r.takeProfitPrice.isNone || r.stopLossPrice.isNone))
    .bothTargetsRequired

end OrderRequest

end OrderDesk

import OrderDesk.Desk.Context
import OrderDesk.Order.Fill
import OrderDesk.Pricing.Fees
import OrderDesk.Pricing.Slippage

/-!
# Legs

A leg is one submission to a venue: what is sent and what will be recorded. A single
order has one leg, a pair of orders two, and an order with protection up to three. The
leg is the only source of both the submission and the record. The submission leaves out
what orders of its type are sent without, and the record does not.
-/

namespace OrderDesk

/-- One submission: what is sent and what is recorded. -/
structure Leg where
  /-- The order type that is recorded. -/
  recordType : OrderType
  /-- The order type that is sent. -/
  venueType : OrderType
  side : Side
  quantity : Float
  price : Option Float := none
  /-- The price at which a stop becomes active. -/
  stopPrice : Option Float := none
  takeProfitPrice : Option Float := none
  /-- Where to stop losses; this is recorded and not sent. -/
  stopLossPrice : Option Float := none
  /-- The distance of a trailing stop. -/
  trailingAmount : Option Float := none
  /-- What the distance is measured in. -/
  trailingType : Option TrailingType := none
  /-- How long the order stands. -/
  timeInForce : Option TimeInForce := none
  clientId : String

namespace Leg

/-- The conditional terms of a leg; only terms that are set are stated. -/
def terms (leg : Leg) : OrderTerms where
  clientId := some (.text leg.clientId)
  timeInForce := leg.timeInForce.map fun t => .text t.name
  stopPrice := leg.stopPrice.map .real
  takeProfitPrice := leg.takeProfitPrice.map .real
  trailingAmount := leg.trailingAmount.map .real
  trailingType := leg.trailingType.map fun t => .text t.name

/-- What is handed to the venue's line. -/
def instruction (leg : Leg) (symbol : String) : Instruction where
  symbol := symbol
  type := leg.venueType.name
  side := leg.side.name
  quantity := leg.quantity
  price := leg.price
  terms := leg.terms

/-- The status that a venue's status word stands for; no word stands for an order that
is open. -/
def statusOf (word : Payload) : Except Fault OrderStatus :=
  if word.isPresent then
    match word with
    | .text s => .ok (OrderStatus.ofVenueWord s)
    | p => .error (.unfit p.kind .trimming)
  else .ok .new

/-- What an acknowledgement reports about the execution. -/
def reportOf (ack : Ack) : ExecutionReport Float :=
  ⟨ack.amount, ack.filled, ack.price, ack.average, ack.cost⟩

/-- How a leg is recorded beyond what it and its acknowledgement say. -/
structure Marks where
  /-- It was placed by hand. -/
  isManual : Bool
  /-- It was placed by a strategy. -/
  isAlgorithmic : Bool := false
  /-- The fee that was expected. -/
  fee : Option FeeEstimate := none
  /-- The slippage that was expected. -/
  slippage : Option Float := none

/-- **The record of an acknowledged leg**, up to the time when the venue took it. -/
def record (ctx : Context) (leg : Leg) (ack : Ack) (marks : Marks) : Except Fault Ticket := do
  let status ← statusOf ack.status
  let booking := Booking.infer status (reportOf ack) leg.quantity leg.price
  let currency := (marks.fee.map (·.currency)).getD ctx.quote.symbol
  return {
    venueOrderId := some ack.id
    clientId := ack.clientId.orElse (.text leg.clientId)
    user := some ctx.user
    venue := some ctx.slug
    baseCoin := some ctx.base.id
    quoteCoin := some ctx.quote.id
    symbol := ack.symbol.orElse (.text ctx.symbol)
    side := some leg.side.name
    type := some leg.recordType.name
    status := some status.name
    isManual := some marks.isManual
    isAlgorithmic := some marks.isAlgorithmic
    quantity := some booking.quantity
    price := booking.price
    executed := some booking.executed
    average := booking.average
    cost := some booking.cost
    fee := some (Arith.orElse ack.fee 0.0)
    feeCurrency := ack.feeCurrency.orElse (.text currency)
    estimatedFee := marks.fee.map (·.amount)
    estimatedSlippage := marks.slippage
    stopPrice := leg.stopPrice
    trailingAmount := leg.trailingAmount
    trailingType := leg.trailingType.map TrailingType.name
    takeProfitPrice := leg.takeProfitPrice
    stopLossPrice := leg.stopLossPrice
    timeInForce := leg.timeInForce.map TimeInForce.name
    transactTime := ack.timestamp }

/-- The record of an acknowledged leg. A venue that does not say when it took the order
took it now. -/
def recordNow (ctx : Context) (leg : Leg) (ack : Ack) (marks : Marks) : StoreM Ticket := do
  let ticket ← Store.ofExcept (record ctx leg ack marks)
  let time ← Store.timeOr ticket.transactTime
  return { ticket with transactTime := some time }

end Leg

namespace Floor

/-- **A leg is submitted.** Whatever goes wrong is the venue's failure to do it. -/
def submit (ctx : Context) (leg : Leg) (operation : String) : FloorM Ack := do
  match ← trySpeak ctx (Line.submit (leg.instruction ctx.symbol)) with
  | .ok ack => return ack
  | .error e => throw (.venue operation e.message)

/-- The fees that are assumed of an unknown venue. -/
def fallbackFees (ref : Reference) : FeeRates Float :=
  ⟨ref.settings.defaultMakerFee, ref.settings.defaultTakerFee⟩

/-- Slippage of a market order, from the venue's book. -/
def slippageOnLine (ref : Reference) (ctx : Context) (side : Side) (quantity : Float) :
    Line Float := do
  let book ← Line.fetchOrderBook ctx.symbol ref.settings.orderBookDepth
  return book.slippage side quantity

/-- The fee and the slippage that are expected of an order. -/
def estimateOnLine (ref : Reference) (ctx : Context) (type : OrderType) (side : Side)
    (v : ValidatedOrder) : Line (FeeEstimate × Option Float) := do
  let slippage ← if type == .market then
      some <$> slippageOnLine ref ctx side v.quantity
    else pure none
  let price ← match v.referencePrice with
    | some p => pure p
    | none => Quote.last <$> Line.fetchTicker ctx.symbol
  let fee ← (Fees.estimate type (v.quantity * price) ctx.quote.symbol (some ctx.symbol)
    (fallbackFees ref) : StateM Session FeeEstimate)
  return (fee, slippage)

/-- **The estimate that goes with an order.** It never stands in the way of placing the
order: when it fails there is none, and a notice is given. -/
def estimate (ref : Reference) (ctx : Context) (type : OrderType) (side : Side)
    (v : ValidatedOrder) : StateM Floor (Option FeeEstimate × Option Float) := do
  match ← trySpeak ctx (estimateOnLine ref ctx type side v) with
  | .ok (fee, slippage) => return (some fee, slippage)
  | .error e =>
    modify (·.notify (.estimateFailed ctx.symbol ctx.slug e.message))
    return (none, none)

end Floor

end OrderDesk

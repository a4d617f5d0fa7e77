import OrderDesk.Desk.Escalation

/-!
# Placing single orders

An order is validated against the markets as they are now, estimated, submitted and
written down, in this order. Up to the submission nothing has happened to the outside
world, and a failure is just a failure. From the venue's acknowledgement on the order
stands, and if it cannot be written down it is escalated.
-/

namespace OrderDesk

namespace Desk

/-- The leg of a single order. -/
def singleLeg (r : OrderRequest) (v : ValidatedOrder) (clientId : String) : Leg where
  recordType := r.type
  venueType := r.type
  side := r.side
  quantity := v.quantity
  price := v.price
  stopPrice := r.stopPrice
  takeProfitPrice := if r.type == .takeProfit then r.takeProfitPrice else none
  trailingAmount := r.trailingAmount
  trailingType := r.trailingType
  timeInForce := r.timeInForce
  clientId := clientId

/-- The record of a single order also shows the prices of its protection. -/
def withProtection (r : OrderRequest) (t : Ticket) : Ticket :=
  { t with
    takeProfitPrice := if r.type == .takeProfit then t.takeProfitPrice else r.takeProfitPrice
    stopLossPrice := r.stopLossPrice }

/-- How a single order is marked. -/
def singleMarks (r : OrderRequest) (isManual : Bool) (fee : Option FeeEstimate)
    (slippage : Option Float) : Leg.Marks where
  isManual := isManual
  isAlgorithmic := r.isAlgorithmic || !isManual
  fee := fee
  slippage := slippage

/-- A single order is written down. -/
def writeSingle (ctx : Context) (r : OrderRequest) (leg : Leg) (ack : Ack)
    (marks : Leg.Marks) : StoreM Filed := do
  let ticket ← Leg.recordNow ctx leg ack marks
  Store.addOrder (withProtection r ticket)

/-- Everything that precedes the submission of a single order: the order as the market
takes it, and its estimate. -/
def prepareSingle (ref : Reference) (ctx : Context) (r : OrderRequest) :
    FloorM (ValidatedOrder × Option FeeEstimate × Option Float) := do
  let markets ← Floor.speak ctx Line.fetchMarkets
  let v ← Floor.check (r.validate ctx.symbol markets)
  let (fee, slippage) ← (Floor.estimate ref ctx r.type r.side v :
    StateM Floor (Option FeeEstimate × Option Float))
  return (v, fee, slippage)

/-- The leg of a single order is submitted and, once it stands, written down. -/
def executeSingle (ctx : Context) (r : OrderRequest) (leg : Leg) (marks : Leg.Marks) :
    DeskM Filed := do
  let ack ← runFloor (Floor.submit ctx leg "place order")
  match ← tryStore (Store.atomically (writeSingle ctx r leg ack marks)) with
  | .ok filed => return filed
  | .error e =>
    escalateAndFail
      (divergence ctx "place order" [ack.id] leg.quantity (.object r.toForm) e) "place order"

/-- **A single order is placed.** The transaction is begun before the venue hears of the
order, so that a store that is out of order is noticed in time. -/
def placeSingle (ctx : Context) (r : OrderRequest) (isManual : Bool) : DeskM Filed := do
  let ref := (← get).reference
  let (v, fee, slippage) ← runFloor (prepareSingle ref ctx r)
  let leg := singleLeg r v (← clientIdOr r.clientId)
  runStore Store.beginTransaction
  executeSingle ctx r leg (singleMarks r isManual fee slippage)

/-- The order types that a strategy may place. -/
def automatedTypes : List OrderType := [.market, .limit]

/-- **An order is placed by a strategy**: a market or a limit order. -/
def createOrder (r : OrderRequest) (user : String) : DeskM Ticket := do
  check (Market.refuseIf (!automatedTypes.contains r.type) (.manualOnly r.type))
  check r.ensureComplete
  let ctx ← runFloor (Floor.context (← get).reference r user)
  return (← placeSingle ctx r false).ticket

end Desk

end OrderDesk

import OrderDesk.Desk.Placement

/-!
# Pairs of orders that cancel each other

A take-profit and a stop-loss are submitted one after the other. When the second one
fails, the first is canceled again; that cancel may fail, for instance because the
order has been filled in the meantime, and then operators are told. When both stand,
their rows are written together and linked to each other.
-/

namespace OrderDesk

namespace Desk

/-- The take-profit half of a request, as a request of its own. -/
def profitRequest (r : OrderRequest) : OrderRequest :=
  { r with type := .limit, price := r.takeProfitPrice, stopPrice := none }

/-- The stop-loss half of a request, as a request of its own. -/
def stopRequest (r : OrderRequest) : OrderRequest :=
  { r with type := .stopLoss, price := none, stopPrice := r.stopLossPrice }

/-- The take-profit leg. -/
def profitLeg (r : OrderRequest) (v : ValidatedOrder) (baseId : String) : Leg where
  recordType := .oco
  venueType := .limit
  side := r.side
  quantity := v.quantity
  price := v.price
  takeProfitPrice := v.price
  timeInForce := r.timeInForce
  clientId := baseId ++ "-tp"

/-- The stop-loss leg. -/
def stopLeg (r : OrderRequest) (v : ValidatedOrder) (baseId : String) : Leg where
  recordType := .oco
  venueType := .stopLoss
  side := r.side
  quantity := v.quantity
  stopPrice := v.referencePrice
  stopLossPrice := v.referencePrice
  clientId := baseId ++ "-sl"

/-- Everything that precedes the submission of a pair: both halves as the market takes
them, and the estimate of the first. -/
def prepareOco (ref : Reference) (ctx : Context) (r : OrderRequest) :
    FloorM (ValidatedOrder × ValidatedOrder × Option FeeEstimate) := do
  let markets ← Floor.speak ctx Line.fetchMarkets
  let profit ← Floor.check ((profitRequest r).validate ctx.symbol markets)
  let stop ← Floor.check ((stopRequest r).validate ctx.symbol markets)
  let (fee, _) ← (Floor.estimate ref ctx .limit r.side profit :
    StateM Floor (Option FeeEstimate × Option Float))
  return (profit, stop, fee)

/-- The take-profit leg is taken back; a failure is a notice. -/
def compensate (ctx : Context) (ack : Ack) : StateM Floor Unit := do
  match ← Floor.trySpeak ctx (Line.cancel ack.id ctx.symbol) with
  | .ok _ => return
  | .error e => modify (·.notify (.compensationFailed ack.id ctx.slug e.message))

/-- The second leg is submitted; when that fails the first one is taken back. -/
def submitSecond (ctx : Context) (leg : Leg) (first : Ack) : FloorM Ack := fun f =>
  match (Floor.submit ctx leg "place stop-loss order").run f with
  | (.ok ack, f) => (.ok ack, f)
  | (.error e, f) => (.error e, (compensate ctx first f).2)

/-- Both legs are submitted. -/
def submitBoth (ctx : Context) (profit stop : Leg) : FloorM (Ack × Ack) := do
  let first ← Floor.submit ctx profit "place take-profit order"
  let second ← submitSecond ctx stop first
  return (first, second)

/-- Both rows are written and linked to each other. -/
def writeOco (ctx : Context) (profit stop : Leg) (acks : Ack × Ack)
    (fee : Option FeeEstimate) : StoreM Ticket := do
  let first ← Leg.recordNow ctx profit acks.1 { isManual := true, fee := fee }
  let first ← Store.addOrder first
  let second ← Leg.recordNow ctx stop acks.2 { isManual := true }
  let second ← Store.addOrder { second with link := some first.order.id }
  let time ← Store.linkTo first.order.id second.order.id
  return { first.ticket with link := some second.order.id, updatedAt := some time }

/-- Both legs of a pair are submitted and, once they stand, written down. -/
def executeOco (ctx : Context) (r : OrderRequest) (profit stop : Leg)
    (fee : Option FeeEstimate) : DeskM Ticket := do
  let acks ← runFloor (submitBoth ctx profit stop)
  match ← tryStore (Store.transaction (writeOco ctx profit stop acks fee)) with
  | .ok ticket => return ticket
  | .error e =>
    escalateAndFail
      (divergence ctx "place OCO order" [acks.1.id, acks.2.id] profit.quantity
        (.object r.toForm) e)
      "place OCO order"

/-- **A pair is placed.** What is returned is the take-profit order. -/
def placeOco (ctx : Context) (r : OrderRequest) : DeskM Ticket := do
  let ref := (← get).reference
  let (profit, stop, fee) ← runFloor (prepareOco ref ctx r)
  let baseId ← clientIdOr r.clientId
  executeOco ctx r (profitLeg r profit baseId) (stopLeg r stop baseId) fee

end Desk

end OrderDesk

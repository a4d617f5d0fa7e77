import OrderDesk.Desk.Oco

/-!
# Protective orders

A manual order can ask for protection: a stop-loss, a take-profit, or both, on the
opposite side and for the same amount. They are attached after the entry stands, each on
its own, and a failure to attach one is a notice: the entry stands whatever happens to
its protection. When both were attached they are linked, so that one cancels the other.
-/

namespace OrderDesk

namespace Desk

/-- The protective stop-loss of an entry. -/
def stopProtection (side : Side) (quantity price : Float) (clientId : String) : Leg where
  recordType := .stopLoss
  venueType := .stopLoss
  side := side
  quantity := quantity
  stopPrice := some price
  stopLossPrice := some price
  clientId := clientId

/-- The protective take-profit of an entry. -/
def profitProtection (side : Side) (quantity price : Float) (clientId : String) : Leg where
  recordType := .takeProfit
  venueType := .takeProfit
  side := side
  quantity := quantity
  price := some price
  takeProfitPrice := some price
  clientId := clientId

/-- A protective leg at a price, when the price is stated. -/
def protectionAt (price : Option Float) (leg : Float → String → Leg) :
    StateM Desk (List Leg) := do
  match OrderRequest.stated price with
  | some p => return [leg p (← newClientId)]
  | none => return []

/-- The protective legs of an entry, the stop-loss first. -/
def protectionLegs (r : OrderRequest) (quantity : Float) : StateM Desk (List Leg) := do
  let side := r.side.opposite
  let stop ← protectionAt r.stopLossPrice (stopProtection side quantity)
  let profit ← protectionAt r.takeProfitPrice (profitProtection side quantity)
  return stop ++ profit

/-- What the submission of a protective leg is called. -/
def protectionName (leg : Leg) : String :=
  "place " ++ Text.lower leg.recordType.name ++ " order"

/-- One protective leg is submitted and written down. -/
def placeProtection (ctx : Context) (leg : Leg) : DeskM Filed := do
  let ack ← runFloor (Floor.submit ctx leg (protectionName leg))
  let ticket ← runStore (Leg.recordNow ctx leg ack { isManual := true })
  match ← tryStore (Store.transaction (Store.addOrder ticket)) with
  | .ok filed => return filed
  | .error e =>
    escalateAndFail (divergence ctx (protectionName leg) [ack.id] leg.quantity .null e)
      "place protective order"

/-- Protective legs are placed one after the other. A foreseen failure is a notice and
leaves that leg out. -/
def placeEach (ctx : Context) (entryId : String) : List Leg → DeskM (List Filed)
  | [] => return []
  | leg :: rest => do
    match ← attempt (placeProtection ctx leg) with
    | .ok filed => return filed :: (← placeEach ctx entryId rest)
    | .error e =>
      if e.isForeseen then
        notify (.protectionFailed leg.recordType entryId e.message)
        placeEach ctx entryId rest
      else throw e

/-- Two orders are linked to each other. -/
def linkBoth (a b : String) : StoreM Unit := do
  let _ ← Store.linkTo a b
  let _ ← Store.linkTo b a

/-- Two protective orders are linked; a failure is a notice. -/
def linkProtection (entryId : String) : List Filed → StateM Desk Unit
  | [stop, profit] => do
    match ← tryStore (Store.transaction (linkBoth stop.order.id profit.order.id)) with
    | .ok _ => return
    | .error e => notify (.linkFailed entryId e.message)
  | _ => return

/-- **Protection is attached to an entry.** -/
def protect (ctx : Context) (r : OrderRequest) (entry : Order) : DeskM Unit := do
  let legs ← protectionLegs r entry.quantity
  let placed ← placeEach ctx entry.id legs
  linkProtection entry.id placed

/-- The request asks for protection. -/
def asksForProtection (r : OrderRequest) : Bool :=
  (OrderRequest.stated r.stopLossPrice).isSome || (OrderRequest.stated r.takeProfitPrice).isSome

/-- A manual order that is no pair, with its protection. -/
def placeProtected (ctx : Context) (r : OrderRequest) : DeskM Ticket := do
  let entry ← placeSingle ctx r true
  if asksForProtection r then protect ctx r entry.order
  return entry.ticket

/-- **An order is placed by hand**: of any type that the venue supports. -/
def placeManualOrder (r : OrderRequest) (user : String) : DeskM Ticket := do
  check r.ensureComplete
  check (OrderRequest.ensureSupported r.venue r.type)
  let ctx ← runFloor (Floor.context (← get).reference r user)
  if r.type == .oco then placeOco ctx r else placeProtected ctx r

end Desk

end OrderDesk

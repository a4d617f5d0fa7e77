import OrderDesk.Desk.Cancellation
import OrderDesk.Desk.Placement
import OrderDesk.Desk.Preview
import OrderDesk.Desk.Protection
import OrderDesk.Desk.Query

/-!
# Operations

Everything that a user can ask of the desk: to place, to cancel and to preview orders, and
to say which orders there are and what they amount to. A user who asks is known to the
operation, and what is asked for is the user's own.
-/

namespace OrderDesk

/-- **What a user can ask of the desk.** -/
inductive Operation where
  /-- An order is placed by a strategy. -/
  | place (r : OrderRequest)
  /-- An order is placed by hand. -/
  | placeByHand (r : OrderRequest)
  | cancel (id : String)
  /-- An order was filled. -/
  | fill (id : String)
  /-- The preview of an order that a strategy would place. -/
  | preview (r : OrderRequest)
  /-- The preview of an order that would be placed by hand. -/
  | previewByHand (r : OrderRequest)
  | order (id : String)
  | orders (f : OrderFilters)
  | openOrders
  /-- What is held of a coin. -/
  | holdings (coin : Coin Float)

/-- What the desk answers. -/
inductive Answer where
  /-- An order that was placed or canceled. -/
  | ticket (t : Ticket)
  /-- The order that was canceled because another one was filled. -/
  | sibling (t : Option Ticket)
  | preview (p : OrderPreview)
  | order (o : Order)
  | orders (os : List Order)
  | holdings (h : HoldingsSnapshot Float)

namespace Operation

/-- A question that the store alone answers. -/
def askStore (x : Store → Except Failure Answer) : DeskM Answer := fun d => (x d.store, d)

/-- **What an operation does** for a user. -/
def run (user : String) : Operation → DeskM Answer
  | place r => do return .ticket (← Desk.createOrder r user)
  | placeByHand r => do return .ticket (← Desk.placeManualOrder r user)
  | cancel id => do return .ticket (← Desk.cancelOrder user id)
  | fill id => do return .sibling (← Desk.handleFill user id)
  | preview r => do
    let d ← get
    return .preview (← Desk.runFloor (Floor.preview d.reference r user))
  | previewByHand r => do
    let d ← get
    return .preview (← Desk.runFloor (Floor.previewManual d.reference r user))
  | order id => askStore fun s => (s.orderOf user id).map .order
  | orders f => askStore fun s => (s.ordersOf user f).map .orders
  | openOrders => askStore fun s => .ok (.orders (s.openOrdersOf user))
  | holdings coin => askStore fun s => .ok (.holdings (s.holdingsOf user coin))

end Operation

end OrderDesk

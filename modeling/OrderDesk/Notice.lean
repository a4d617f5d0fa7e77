import OrderDesk.Order.Terms
import OrderDesk.Payload.Text

/-!
# Notices

What operators are told. Most notices say that something optional failed and that the
desk went on without it; one of them, an order that a venue accepted and the store did
not take, asks for a human hand.
-/

namespace OrderDesk

/-- How urgent a notice is. -/
inductive Urgency where
  | warning
  | error
  | critical
  deriving DecidableEq, Repr

/-- The part of the desk that speaks. -/
inductive Speaker where
  | fees
  /-- The placement and cancellation of orders. -/
  | orders
  | escalation
  deriving DecidableEq, Repr

/-- An accepted order, or a pair of them, that the store did not take. -/
structure Divergence where
  operation : String
  /-- The venue's identifiers of what it accepted. -/
  venueOrderIds : List String
  symbol : String
  quantity : Float
  user : Option String
  /-- The request that led to it, or null. -/
  request : Payload
  error : Option String

/-- What operators are told. -/
inductive Notice where
  /-- The venue's fee endpoint failed. -/
  | feesUnavailable (slug reason : String)
  /-- The venue's markets could not be loaded for their fees. -/
  | marketsUnavailable (slug reason : String)
  /-- The estimate that goes with an order failed. -/
  | estimateFailed (symbol slug reason : String)
  /-- The take-profit leg could not be canceled after its stop-loss leg failed. -/
  | compensationFailed (venueOrderId slug reason : String)
  /-- A protective order could not be attached. -/
  | protectionFailed (type : OrderType) (orderId reason : String)
  /-- Two protective orders could not be linked. -/
  | linkFailed (orderId reason : String)
  /-- The order linked to a canceled one could not be canceled. -/
  | cascadeFailed (orderId reason : String)
  /-- The balance of an account could not be fetched. -/
  | balanceUnavailable (slug reason : String)
  /-- An accepted order was not stored. -/
  | unreconciled (d : Divergence)
  /-- The incident about an accepted order was not stored either. -/
  | incidentLost (venueOrderIds : List String)

namespace Notice

/-- How urgent a notice is. -/
def urgency : Notice → Urgency
  | unreconciled .. => .critical
  | compensationFailed .. | incidentLost .. => .error
  | _ => .warning

/-- Who gives a notice. -/
def speaker : Notice → Speaker
  | feesUnavailable .. | marketsUnavailable .. => .fees
  | unreconciled .. | incidentLost .. => .escalation
  | _ => .orders

/-- Identifiers with commas between them. -/
def joined (ids : List String) : String := ", ".intercalate ids

/-- A text or the word for its absence. -/
def orNone (s : Option String) : String := s.getD "None"

/-- What a notice says. -/
def text : Notice → String
  | feesUnavailable slug reason =>
    s!"Trading fee lookup failed on {slug}, falling back: {reason}"
  | marketsUnavailable slug reason =>
    s!"Market metadata load failed on {slug}, falling back: {reason}"
  | estimateFailed symbol slug reason =>
    s!"Execution estimate failed for {symbol} on {slug}: {reason}"
  | compensationFailed id slug reason =>
    s!"Failed to cancel take-profit leg {id} on {slug} after stop-loss submission failed: "
      ++ reason
  | protectionFailed type id reason =>
    s!"Failed to attach {type.name} to order {id}: {reason}"
  | linkFailed id reason => s!"Failed to link protective orders of {id}: {reason}"
  | cascadeFailed id reason => s!"Failed to cancel linked OCO order {id}: {reason}"
  | balanceUnavailable slug reason => s!"Balance lookup failed on {slug}: {reason}"
  | unreconciled d =>
    s!"MANUAL RECONCILIATION REQUIRED: {d.operation} succeeded on venue but local "
      ++ "persistence failed (venue_order_ids=" ++ joined d.venueOrderIds
      ++ s!" symbol={d.symbol} quantity=" ++ Number.text d.quantity
      ++ " user=" ++ orNone d.user ++ " error=" ++ orNone d.error
      ++ " request=" ++ d.request.asText ++ ")"
  | incidentLost ids => "Could not record reconciliation incident for " ++ joined ids

end Notice

end OrderDesk

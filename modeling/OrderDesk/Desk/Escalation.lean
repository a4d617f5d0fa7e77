import OrderDesk.Desk.Leg

/-!
# Escalation

When a venue has accepted an order and the store has not taken it, nothing is retried
and nothing is undone: an operator is told, twice. A critical notice is given first,
since the store is likely what failed; then an incident is written, and when that fails
too, a second notice says so.
-/

namespace OrderDesk

namespace Divergence

/-- The identifiers with commas between them. -/
def ids (d : Divergence) : String := Notice.joined d.venueOrderIds

/-- What the incident says happened. -/
def description (d : Divergence) : String :=
  d.operation ++ " accepted by venue (" ++ d.ids ++ ") but not persisted locally: "
    ++ Notice.orNone d.error

/-- Everything that is known about a divergence. -/
def metadata (d : Divergence) : Payload :=
  .object
    [("operation", .text d.operation),
     ("venue_order_ids", .list (d.venueOrderIds.map .text)),
     ("quantity", .real d.quantity),
     ("request", d.request),
     ("error", .ofText? d.error)]

/-- The kind of incident that a divergence is. -/
def incidentType : String := "reconciliation_required"

/-- How severe a divergence is. -/
def severity : String := "critical"

/-- **The incident about a divergence.** -/
def report (d : Divergence) : IncidentReport where
  type := incidentType
  severity := severity
  description := d.description
  user := d.user
  symbol := some d.symbol
  orderId := some d.ids
  metadata := d.metadata

end Divergence

namespace Desk

/-- **A divergence is escalated.** This never fails. -/
def escalate (d : Divergence) : StateM Desk Unit := do
  notify (.unreconciled d)
  match ← tryStore (Store.createIncident d.report) with
  | .ok _ => return
  | .error _ => notify (.incidentLost d.venueOrderIds)

/-- The divergence of accepted orders that the store did not take. -/
def divergence (ctx : Context) (operation : String) (ids : List String) (quantity : Float)
    (request : Payload) (e : Fault) : Divergence where
  operation := operation
  venueOrderIds := ids
  symbol := ctx.symbol
  quantity := quantity
  user := some ctx.user
  request := request
  error := some e.message

/-- A divergence is escalated, and the operation fails for it under its own name. -/
def escalateAndFail {α : Type} (d : Divergence) (operation : String) : DeskM α := do
  escalate d
  throw (.unreconciled operation d.venueOrderIds (some d.symbol) (some d.quantity))

end Desk

end OrderDesk

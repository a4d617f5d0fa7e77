import OrderDesk.Desk.Basic
import OrderDesk.Holdings
import OrderDesk.Order.Filters

/-!
# Questions about orders

Users ask the desk for their own orders and for what they hold. The answers come from
the store alone. The restrictions of a question are words that must belong to the
vocabulary of their column, and the first restriction with a word that does not is the
one that is refused.
-/

namespace OrderDesk

namespace OrderFilters

/-- A restriction under the name that a refusal gives it. -/
def column (α : Type) [Vocabulary α] (name : String) (f : Option FilterText) :
    Except Failure (Option (List String)) :=
  (FilterText.parse α f).mapError fun invalid => .refused (.invalidFilter name invalid)

/-- **The query that a user's restrictions stand for.** -/
def toQuery (f : OrderFilters) : Except Failure OrderQuery := do
  let statuses ← column OrderStatus "status" f.status
  let sides ← column Side "side" f.side
  let types ← column OrderType "order type" f.type
  return ⟨statuses, sides, types, f.isManual, f.limit⟩

end OrderFilters

namespace Store

/-- **The orders of a user** that the restrictions leave, newest first. -/
def ordersOf (s : Store) (user : String) (f : OrderFilters) : Except Failure (List Order) := do
  (s.query user (← f.toQuery)).mapError .fault

/-- **One order of a user.** -/
def orderOf (s : Store) (user id : String) : Except Failure Order :=
  match s.ledger.findOwned? user id with
  | some o => .ok o
  | none => .error (.missing s!"Order {id} not found")

/-- **The open orders of a user**, newest first. -/
def openOrdersOf (s : Store) (user : String) : List Order :=
  s.ledger.query user { statuses := some Ledger.openStatuses }

/-- **What a user holds of a coin.** -/
def holdingsOf (s : Store) (user : String) (coin : Coin Float) : HoldingsSnapshot Float :=
  Holdings.snapshot coin ((s.ledger.filledFor user coin.id).map fun o => o.ticket.trade)

end Store

end OrderDesk

import OrderDesk.Holdings
import OrderDesk.Order.Status
import OrderDesk.Payload.Text
import OrderDesk.Stamp

/-!
# Orders on record

An order on record appears in two forms. A *ticket* is an order as its holder has it:
any column may still be open, and labels that a venue gave are as the venue wrote them.
An *order* is a row of the store: its required columns are filled, its labels are
texts, and its numbers are numbers, since the store keeps no NaN and no negative zero.
-/

namespace OrderDesk

/-- Why the store does not take a row. -/
inductive Objection where
  /-- A column that must be filled is empty. -/
  | unfilled (column : String)
  /-- A column holds a value of a shape that the store does not know. -/
  | unbindable (column : String) (kind : Payload.Kind)
  /-- A column holds a whole number beyond the store's range. -/
  | beyondRange
  /-- Another row has the identifier. -/
  | taken

/-- An order as its holder has it. -/
structure Ticket where
  id : Option String := none
  venueOrderId : Option String := none
  clientId : Payload := .null
  user : Option String := none
  venue : Option String := none
  baseCoin : Option String := none
  quoteCoin : Option String := none
  symbol : Payload := .null
  side : Option String := none
  type : Option String := none
  status : Option String := none
  /-- It was placed by hand. -/
  isManual : Option Bool := none
  /-- It was placed by a strategy. -/
  isAlgorithmic : Option Bool := none
  quantity : Option Float := none
  price : Option Float := none
  executed : Option Float := none
  /-- The average price of the fills. -/
  average : Option Float := none
  cost : Option Float := none
  fee : Option Float := none
  /-- What the fee is paid in. -/
  feeCurrency : Payload := .null
  /-- The fee that was expected. -/
  estimatedFee : Option Float := none
  /-- The slippage that was expected. -/
  estimatedSlippage : Option Float := none
  /-- The price at which a stop becomes active. -/
  stopPrice : Option Float := none
  /-- The distance of a trailing stop. -/
  trailingAmount : Option Float := none
  /-- What the distance is measured in. -/
  trailingType : Option String := none
  takeProfitPrice : Option Float := none
  stopLossPrice : Option Float := none
  /-- How long the order stands. -/
  timeInForce : Option String := none
  /-- The order that is canceled with this one. -/
  link : Option String := none
  /-- When the venue took the order. -/
  transactTime : Option Stamp := none
  /-- When the row was written. -/
  createdAt : Option Stamp := none
  /-- When the row was last changed. -/
  updatedAt : Option Stamp := none

/-- An order as a row of the store. -/
structure Order where
  id : String
  venueOrderId : String
  clientId : Option String
  user : String
  venue : String
  baseCoin : Option String
  quoteCoin : Option String
  symbol : String
  side : String
  type : String
  status : String
  isManual : Bool
  isAlgorithmic : Bool
  quantity : Float
  price : Option Float
  executed : Option Float
  average : Option Float
  cost : Option Float
  fee : Option Float
  feeCurrency : Option String
  estimatedFee : Option Float
  estimatedSlippage : Option Float
  stopPrice : Option Float
  trailingAmount : Option Float
  trailingType : Option String
  takeProfitPrice : Option Float
  stopLossPrice : Option Float
  timeInForce : Option String
  link : Option String
  transactTime : Stamp
  createdAt : Stamp
  updatedAt : Stamp

namespace Ticket

/-- An order in one line. -/
def describe (t : Ticket) : String :=
  let orNone (s : Option String) : String := s.getD "None"
  "<OrderRecord " ++ orNone t.id ++ " " ++ orNone t.side ++ " " ++ orNone t.type ++ " "
    ++ orNone (t.quantity.map Number.text) ++ " " ++ t.symbol.asText ++ " "
    ++ orNone t.status ++ ">"

/-- An order as a trade. -/
def trade (t : Ticket) : Trade Float where
  venue := t.venue
  isBuy := t.side == some Side.buy.name
  amount := t.executed
  cost := t.cost
  time := t.transactTime

/-- A number as the store keeps it: NaN is nothing, and zero has no sign. -/
def keptNumber (x : Option Float) : Option Float :=
  match x with
  | some v => if v.isNaN then none else some (if v == 0.0 then 0.0 else v)
  | none => none

/-- A label as the store keeps it: numbers and truth values as texts, no lists and no
objects. -/
def keptLabel (column : String) : Payload → Except Objection (Option String)
  | .null => .ok none
  | .text s => .ok (some s)
  | .flag b => .ok (some (if b then "1" else "0"))
  | .whole i =>
    if Number.isOutside 63 i then .error .beyondRange else .ok (some (Number.intText i))
  | .real x => .ok ((keptNumber (some x)).map Number.columnText)
  | p => .error (.unbindable column p.kind)

/-- A column that must be filled. -/
def filled {α : Type} (column : String) : Option α → Except Objection α
  | some a => .ok a
  | none => .error (.unfilled column)

/-- **The row of a ticket** whose identifier and times have been settled. Labels must be
of a shape that the store keeps, and required columns must be filled. -/
def toOrder (t : Ticket) (id : String) (transactTime createdAt updatedAt : Stamp) :
    Except Objection Order := do
  let clientId ← keptLabel "client_order_id" t.clientId
  let symbol ← keptLabel "symbol" t.symbol
  let feeCurrency ← keptLabel "fee_currency" t.feeCurrency
  let venueOrderId ← filled "order_id" t.venueOrderId
  let user ← filled "user_id" t.user
  let venue ← filled "exchange_slug" t.venue
  let symbol ← filled "symbol" symbol
  let side ← filled "side" t.side
  let type ← filled "type" t.type
  let quantity ← filled "quantity" (keptNumber t.quantity)
  return {
    id := id
    venueOrderId := venueOrderId
    clientId := clientId
    user := user
    venue := venue
    baseCoin := t.baseCoin
    quoteCoin := t.quoteCoin
    symbol := symbol
    side := side
    type := type
    status := t.status.getD OrderStatus.new.name
    isManual := t.isManual.getD false
    isAlgorithmic := t.isAlgorithmic.getD false
    quantity := quantity
    price := keptNumber t.price
    executed := keptNumber (some (t.executed.getD 0.0))
    average := keptNumber t.average
    cost := keptNumber (some (t.cost.getD 0.0))
    fee := keptNumber (some (t.fee.getD 0.0))
    feeCurrency := feeCurrency
    estimatedFee := keptNumber t.estimatedFee
    estimatedSlippage := keptNumber t.estimatedSlippage
    stopPrice := keptNumber t.stopPrice
    trailingAmount := keptNumber t.trailingAmount
    trailingType := t.trailingType
    takeProfitPrice := keptNumber t.takeProfitPrice
    stopLossPrice := keptNumber t.stopLossPrice
    timeInForce := t.timeInForce
    link := t.link
    transactTime := transactTime
    createdAt := createdAt
    updatedAt := updatedAt }

/-- The ticket once its row has been written: what was settled is filled in. -/
def settle (t : Ticket) (id : String) (transactTime createdAt updatedAt : Stamp) : Ticket :=
  { t with
    id := some id
    status := some (t.status.getD OrderStatus.new.name)
    isManual := some (t.isManual.getD false)
    isAlgorithmic := some (t.isAlgorithmic.getD false)
    executed := some (t.executed.getD 0.0)
    cost := some (t.cost.getD 0.0)
    fee := some (t.fee.getD 0.0)
    transactTime := some transactTime
    createdAt := some createdAt
    updatedAt := some updatedAt }

end Ticket

namespace Order

/-- A row as a ticket. -/
def ticket (o : Order) : Ticket where
  id := some o.id
  venueOrderId := some o.venueOrderId
  clientId := .ofText? o.clientId
  user := some o.user
  venue := some o.venue
  baseCoin := o.baseCoin
  quoteCoin := o.quoteCoin
  symbol := .text o.symbol
  side := some o.side
  type := some o.type
  status := some o.status
  isManual := some o.isManual
  isAlgorithmic := some o.isAlgorithmic
  quantity := some o.quantity
  price := o.price
  executed := o.executed
  average := o.average
  cost := o.cost
  fee := o.fee
  feeCurrency := .ofText? o.feeCurrency
  estimatedFee := o.estimatedFee
  estimatedSlippage := o.estimatedSlippage
  stopPrice := o.stopPrice
  trailingAmount := o.trailingAmount
  trailingType := o.trailingType
  takeProfitPrice := o.takeProfitPrice
  stopLossPrice := o.stopLossPrice
  timeInForce := o.timeInForce
  link := o.link
  transactTime := some o.transactTime
  createdAt := some o.createdAt
  updatedAt := some o.updatedAt

/-- The order can be canceled. A row whose status is no status of an order cannot. -/
def isOpen (o : Order) : Bool :=
  match (Vocabulary.ofName? o.status : Option OrderStatus) with
  | some s => s.isCancelable
  | none => false

end Order

/-- An order that was just written: its row, and the ticket that its holder gets. -/
structure Filed where
  order : Order
  ticket : Ticket

end OrderDesk

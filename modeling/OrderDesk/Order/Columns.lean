import OrderDesk.Order.Record
import OrderDesk.Payload.Reading

/-!
# The columns of an order

Every order has the same columns under the same names, and a ticket is read from them
and written to them. A column that is not there is empty. Times are written as whoever
asks for the columns wants them.
-/

namespace OrderDesk

namespace Column

/-- A column, null when it is not there. -/
def get (columns : List (String × Payload)) (name : String) : Payload :=
  (columns.lookup name).getD .null

/-- A column that holds a text. -/
def text? (columns : List (String × Payload)) (name : String) : Option String :=
  match get columns name with
  | .text s => some s
  | _ => none

/-- A column that holds a truth value, which may be written as one or zero. -/
def flag? (columns : List (String × Payload)) (name : String) : Option Bool :=
  match get columns name with
  | .flag b => some b
  | .whole 0 => some false
  | .whole 1 => some true
  | _ => none

/-- A column that holds a number. -/
def number? (columns : List (String × Payload)) (name : String) : Option Float :=
  match (get columns name).number? with
  | .ok x => x
  | .error _ => none

/-- A column that holds a time, as text. -/
def stamp? (columns : List (String × Payload)) (name : String) : Option Stamp :=
  (text? columns name).bind Stamp.ofText?

/-- A truth value that may be absent. -/
def ofFlag? : Option Bool → Payload
  | some b => .flag b
  | none => .null

end Column

namespace Ticket

open Column

/-- **A ticket from its columns.** -/
def ofColumns (columns : List (String × Payload)) : Ticket where
  id := text? columns "id"
  venueOrderId := text? columns "order_id"
  clientId := get columns "client_order_id"
  user := text? columns "user_id"
  venue := text? columns "exchange_slug"
  baseCoin := text? columns "base_coin_id"
  quoteCoin := text? columns "quote_coin_id"
  symbol := get columns "symbol"
  side := text? columns "side"
  type := text? columns "type"
  status := text? columns "status"
  isManual := flag? columns "is_manual"
  isAlgorithmic := flag? columns "is_algorithmic_trade"
  quantity := number? columns "quantity"
  price := number? columns "price"
  executed := number? columns "executed_quantity"
  average := number? columns "average_price"
  cost := number? columns "cost"
  fee := number? columns "fee"
  feeCurrency := get columns "fee_currency"
  estimatedFee := number? columns "estimated_fee"
  estimatedSlippage := number? columns "estimated_slippage"
  stopPrice := number? columns "stop_price"
  trailingAmount := number? columns "trailing_amount"
  trailingType := text? columns "trailing_type"
  takeProfitPrice := number? columns "take_profit_price"
  stopLossPrice := number? columns "stop_loss_price"
  timeInForce := text? columns "time_in_force"
  link := text? columns "oco_linked_order_id"
  transactTime := stamp? columns "transact_time"
  createdAt := stamp? columns "created_at"
  updatedAt := stamp? columns "updated_at"

/-- The columns of a ticket, with its times as `time` writes them and its marks as `flag` does. -/
def columnsWith (time : Option Stamp → Payload) (flag : Option Bool → Payload) (t : Ticket) :
    List (String × Payload) :=
  [("id", .ofText? t.id),
   ("order_id", .ofText? t.venueOrderId),
   ("client_order_id", t.clientId),
   ("user_id", .ofText? t.user),
   ("exchange_slug", .ofText? t.venue),
   ("base_coin_id", .ofText? t.baseCoin),
   ("quote_coin_id", .ofText? t.quoteCoin),
   ("symbol", t.symbol),
   ("side", .ofText? t.side),
   ("type", .ofText? t.type),
   ("status", .ofText? t.status),
   ("is_manual", flag t.isManual),
   ("is_algorithmic_trade", flag t.isAlgorithmic),
   ("quantity", .ofReal? t.quantity),
   ("price", .ofReal? t.price),
   ("executed_quantity", .ofReal? t.executed),
   ("average_price", .ofReal? t.average),
   ("cost", .ofReal? t.cost),
   ("fee", .ofReal? t.fee),
   ("fee_currency", t.feeCurrency),
   ("estimated_fee", .ofReal? t.estimatedFee),
   ("estimated_slippage", .ofReal? t.estimatedSlippage),
   ("stop_price", .ofReal? t.stopPrice),
   ("trailing_amount", .ofReal? t.trailingAmount),
   ("trailing_type", .ofText? t.trailingType),
   ("take_profit_price", .ofReal? t.takeProfitPrice),
   ("stop_loss_price", .ofReal? t.stopLossPrice),
   ("time_in_force", .ofText? t.timeInForce),
   ("oco_linked_order_id", .ofText? t.link),
   ("transact_time", time t.transactTime),
   ("created_at", time t.createdAt),
   ("updated_at", time t.updatedAt)]

/-- **The columns of a ticket**, with its times as `time` writes them. -/
def toColumns (time : Option Stamp → Payload) (t : Ticket) : List (String × Payload) :=
  t.columnsWith time ofFlag?

end Ticket

end OrderDesk

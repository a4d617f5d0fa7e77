import OrderDesk.Order.Terms
import OrderDesk.Fault
import OrderDesk.Text.Case

/-!
# From an order to a venue's arguments

Venues know two kinds of order, market and limit; everything else about an order
travels in named extra arguments. Which of them an order type sets is decided here
and nowhere else.

Whoever places an order states its conditional terms by name. A term that was not
stated is not the same as one that was stated as null: an order type that needs a term
fails when it was not stated at all.
-/

namespace OrderDesk

/-- The conditional terms of an order, each one stated or not. -/
structure OrderTerms where
  clientId : Option Payload := none
  /-- How long the order stands. -/
  timeInForce : Option Payload := none
  /-- The price at which a stop becomes active. -/
  stopPrice : Option Payload := none
  takeProfitPrice : Option Payload := none
  /-- The distance of a trailing stop. -/
  trailingAmount : Option Payload := none
  /-- What the distance is measured in. -/
  trailingType : Option Payload := none

/-- The terms among named values. -/
def OrderTerms.ofFields (fields : List (String × Payload)) : OrderTerms where
  clientId := fields.lookup "client_order_id"
  timeInForce := fields.lookup "time_in_force"
  stopPrice := fields.lookup "stop_price"
  takeProfitPrice := fields.lookup "take_profit_price"
  trailingAmount := fields.lookup "trailing_amount"
  trailingType := fields.lookup "trailing_type"

/-- An order as it is handed to a venue's line. -/
structure Instruction where
  /-- The pair as the venue writes it. -/
  symbol : String
  /-- The order type, in any letter case. -/
  type : String
  /-- The side, in any letter case. -/
  side : String
  quantity : Float
  price : Option Float
  terms : OrderTerms

/-- The two kinds of order that venues know. -/
inductive Execution where
  /-- At whatever price the book offers. -/
  | market
  /-- At a price or better. -/
  | limit
  deriving DecidableEq, Repr

/-- The venue's word for a kind of order. -/
def Execution.word : Execution → String
  | .market => "market"
  | .limit => "limit"

/-- The named extra arguments of a submission. -/
structure Extras where
  clientOrderId : Option Payload := none
  /-- How long the order stands. -/
  timeInForce : Option Payload := none
  /-- The trigger of a stop order. -/
  stopLossPrice : Option Payload := none
  /-- The trigger of a stop-limit order. -/
  triggerPrice : Option Payload := none
  /-- The trigger of a take-profit order. -/
  takeProfitPrice : Option Payload := none
  /-- A trailing distance in percent. -/
  trailingPercent : Option Payload := none
  /-- A trailing distance as an amount. -/
  trailingAmount : Option Payload := none

/-- The extra arguments that are set, under the venue's names. -/
def Extras.toFields (x : Extras) : List (String × Payload) :=
  [("clientOrderId", x.clientOrderId), ("timeInForce", x.timeInForce),
   ("stopLossPrice", x.stopLossPrice), ("triggerPrice", x.triggerPrice),
   ("takeProfitPrice", x.takeProfitPrice), ("trailingPercent", x.trailingPercent),
   ("trailingAmount", x.trailingAmount)].filterMap fun (name, p) => p.map (name, ·)

/-- The arguments that an order is submitted to a venue with. -/
structure Submission where
  /-- The pair as the venue writes it. -/
  symbol : String
  execution : Execution
  /-- The side, in lower case. -/
  side : String
  amount : Float
  /-- The limit, for a limit order. -/
  price : Option Float
  extras : Extras

namespace Instruction

/-- The extra arguments that every order type may set. -/
def commonExtras (i : Instruction) : Extras where
  clientOrderId := i.terms.clientId.filter Payload.isPresent
  timeInForce := i.terms.timeInForce.filter Payload.isPresent

/-- A term that the order type needs. -/
def need (term : Option Payload) (name : String) : Except Fault Payload :=
  match term with
  | some p => .ok p
  | none => .error (.missingField name)

/-- The kind of order, its limit and its extra arguments, by order type. -/
def arguments (slug : String) (i : Instruction) :
    Except Fault (Execution × Option Float × Extras) :=
  let x := i.commonExtras
  let type := Text.upper i.type
  match (Vocabulary.ofName? type : Option OrderType) with
  | some .market => .ok (.market, none, x)
  | some .limit => .ok (.limit, i.price, x)
  | some .stopLoss => do
    let stop ← need i.terms.stopPrice "stop_price"
    return (.market, none, { x with stopLossPrice := some stop })
  | some .stopLimit => do
    let stop ← need i.terms.stopPrice "stop_price"
    return (.limit, i.price, { x with triggerPrice := some stop })
  | some .takeProfit => do
    let target ← need i.terms.takeProfitPrice "take_profit_price"
    let x := { x with takeProfitPrice := some target }
    return if i.price.any (fun p => !(p == 0.0)) then (.limit, i.price, x)
      else (.market, none, x)
  | some .trailingStop => do
    let distance ← need i.terms.trailingAmount "trailing_amount"
    return if i.terms.trailingType.any (Payload.isText · TrailingType.percentage.name) then
        (.market, none, { x with trailingPercent := some distance })
      else (.market, none, { x with trailingAmount := some distance })
  | some .oco | none => .error (.unknownOrderType slug type)

/-- **The submission of an order** on the line of a venue. -/
def shape (slug : String) (i : Instruction) : Except Fault Submission := do
  let (execution, price, extras) ← i.arguments slug
  return {
    symbol := i.symbol
    execution := execution
    side := Text.lower i.side
    amount := i.quantity
    price := price
    extras := extras }

end Instruction

end OrderDesk

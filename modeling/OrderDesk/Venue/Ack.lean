import OrderDesk.Payload.Reading

/-!
# Acknowledgements

A venue answers an accepted order with an acknowledgement: the identifier it gave the
order, and as much as it already knows about its execution. Labels are kept as the
venue wrote them. A venue that does not state the fee may list the trades that filled
the order, each with a fee of its own; their costs are added up, and the first currency
named among them is taken for the sum.
-/

namespace OrderDesk

/-- A venue's answer to an order or to a cancel. -/
structure Ack where
  /-- The venue's identifier of the order. -/
  id : String
  symbol : Payload
  side : Payload
  type : Payload
  /-- The status word, if any. -/
  status : Payload
  /-- The caller's own identifier, if it is repeated. -/
  clientId : Payload
  amount : Option Float
  filled : Option Float
  price : Option Float
  /-- The average price of the fills. -/
  average : Option Float
  cost : Option Float
  fee : Option Float
  /-- What the fee is paid in. -/
  feeCurrency : Payload
  /-- When the order was taken. -/
  timestamp : Option Stamp

namespace Ack

/-- A fee: its cost and its currency. -/
structure Fee where
  cost : Option Float
  currency : Payload

/-- The fee section of an order or of a trade; an absent one has neither part. -/
def readFee (p : Payload) : Except Fault Fee := do
  let fee ← p.group "fee"
  return ⟨← fee.numberAt? "cost", ← fee.field "currency"⟩

/-- The fee sections of all trades. -/
def feesOf : List Payload → Except Fault (List Payload)
  | [] => .ok []
  | p :: ps => do
    let fee ← p.group "fee"
    return fee :: (← feesOf ps)

/-- The costs of several fees added up from the left; a fee without cost adds nothing. -/
def sumCosts : Float → List Payload → Except Fault Float
  | acc, [] => .ok acc
  | acc, p :: ps => do
    let cost ← p.numberAt? "cost"
    sumCosts (acc + cost.getD 0.0) ps

/-- The first currency that is named among several fees. -/
def firstCurrency : List Payload → Except Fault Payload
  | [] => .ok .null
  | p :: ps => do
    let currency ← p.field "currency"
    if currency.isPresent then return currency else firstCurrency ps

/-- **The fee of an order**: the one it states, else what its trades add up to. -/
def readTotalFee (p : Payload) : Except Fault Fee := do
  let stated ← readFee p
  let trades ← p.field "trades"
  if stated.cost.isNone && trades.isPresent then
    let fees ← feesOf (← trades.items)
    return ⟨some (← sumCosts 0.0 fees), ← firstCurrency fees⟩
  else return stated

/-- **An acknowledgement from what the venue wrote.** The order's symbol, side and type
stand in where the venue does not repeat them; only the identifier must be there. -/
def read (symbol side type : String) (p : Payload) : Except Fault Ack := do
  let fee ← readTotalFee p
  let some id ← p.field? "id" | throw (.missingField "id")
  return {
    id := id.asText
    symbol := (← p.field "symbol").orElse (.text symbol)
    side := (← p.field "side").orElse (.text side)
    type := (← p.field "type").orElse (.text type)
    status := ← p.field "status"
    clientId := ← p.field "clientOrderId"
    amount := ← p.numberAt? "amount"
    filled := ← p.numberAt? "filled"
    price := ← p.numberAt? "price"
    average := ← p.numberAt? "average"
    cost := ← p.numberAt? "cost"
    fee := fee.cost
    feeCurrency := fee.currency
    timestamp := ← (← p.field "timestamp").stamp? }

end Ack

end OrderDesk

import OrderDesk.Payload.Reading

/-!
# Quotes

The last price of a pair on a venue, with the best prices on either side when the
venue states them. A venue that states no last price is asked for its closing price,
and without either the price counts as zero.
-/

namespace OrderDesk

/-- What a venue says about the price of a pair. -/
structure Quote where
  /-- The pair as the venue writes it. -/
  symbol : Payload
  last : Float
  /-- The best price to sell at. -/
  bid : Option Float
  /-- The best price to buy at. -/
  ask : Option Float
  timestamp : Option Stamp

namespace Quote

/-- A price that is stated and not zero. -/
def stated (price : Option Float) : Option Float := price.filter fun x => !(x == 0.0)

/-- The last price, else the closing price, else zero. -/
def readLast (p : Payload) : Except Fault Float := do
  match stated (← p.numberAt? "last") with
  | some x => return x
  | none => return (stated (← p.numberAt? "close")).getD 0.0

/-- A quote from what the venue wrote about a symbol. -/
def read (symbol : String) (p : Payload) : Except Fault Quote := do
  return {
    last := ← readLast p
    symbol := (← p.field? "symbol").getD (.text symbol)
    bid := ← p.numberAt? "bid"
    ask := ← p.numberAt? "ask"
    timestamp := ← (← p.field "timestamp").stamp? }

end Quote

end OrderDesk

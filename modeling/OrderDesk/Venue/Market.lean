import OrderDesk.Payload.Reading
import OrderDesk.Number.Step

/-!
# Markets

A market is a pair as one venue trades it: whether it is open, which amounts, prices
and values it takes, in which steps, and at what fees. Labels are kept as the venue
wrote them.
-/

namespace OrderDesk

/-- A pair on a venue and the rules for trading it. -/
structure Market where
  /-- The pair as the venue writes it. -/
  symbol : Payload
  base : Payload
  quote : Payload
  active : Bool
  minAmount : Option Float
  maxAmount : Option Float
  minPrice : Option Float
  maxPrice : Option Float
  /-- The least value of an order. -/
  minCost : Option Float
  /-- Amounts are multiples of this. -/
  amountStep : Option Step
  /-- Prices are multiples of this. -/
  priceStep : Option Step
  maker : Option Float
  taker : Option Float

/-- How a venue states its precision. -/
inductive PrecisionMode where
  | tickSize
  /-- As a number of places after the point. -/
  | decimalPlaces
  /-- In a way from which no step follows. -/
  | other
  deriving DecidableEq, Repr

namespace Market

/-- The step for a number of places: whole for places before the point. -/
def stepOfPlaces (places : Int) : Step :=
  if places ≤ 0 then .whole (Number.tenTo places.natAbs)
  else .real (Number.Decimal.toFloat ⟨false, 1, -places⟩)

/-- A step from a precision field. -/
def step? (mode : PrecisionMode) (p : Payload) : Except Fault (Option Step) := do
  match ← p.number? with
  | none => return none
  | some x =>
    match mode with
    | .tickSize => return some (.real x)
    | .decimalPlaces => return some (stepOfPlaces (← Payload.wholeOf x))
    | .other => return none

/-- The smallest or greatest value in a named section of the limits. -/
def limitAt? (limits : Payload) (group bound : String) : Except Fault (Option Float) := do
  (← limits.group group).numberAt? bound

/-- **A market from what the venue wrote.** Only the symbol must be there. -/
def read (mode : PrecisionMode) (p : Payload) : Except Fault Market := do
  let limits ← p.group "limits"
  let precision ← p.group "precision"
  let some symbol ← p.field? "symbol" | throw (.missingField "symbol")
  let base ← p.field? "base"
  let quote ← p.field? "quote"
  let active ← p.field "active"
  return {
    symbol := symbol
    base := base.getD (.text "")
    quote := quote.getD (.text "")
    active := match active with
      | .flag false => false
      | _ => true
    minAmount := ← limitAt? limits "amount" "min"
    maxAmount := ← limitAt? limits "amount" "max"
    minPrice := ← limitAt? limits "price" "min"
    maxPrice := ← limitAt? limits "price" "max"
    minCost := ← limitAt? limits "cost" "min"
    amountStep := ← step? mode (← precision.field "amount")
    priceStep := ← step? mode (← precision.field "price")
    maker := ← p.numberAt? "maker"
    taker := ← p.numberAt? "taker" }

/-- Markets under their keys, each key once: a later market takes the place of an
earlier one with the same key. -/
abbrev Listing := List (String × Market)

/-- All markets of an answer, or the first fault among them. -/
def readAll (mode : PrecisionMode) :
    List (String × Payload) → Except Fault Listing
  | [] => .ok []
  | (key, p) :: rest => do
    let market ← read mode p
    return (key, market) :: (← readAll mode rest)

/-- Both rates of a market, when it states both. -/
def rates? (m : Market) : Option (Float × Float) :=
  match m.maker, m.taker with
  | some maker, some taker => some (maker, taker)
  | _, _ => none

end Market

end OrderDesk

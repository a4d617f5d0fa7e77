import OrderDesk.Catalog.Coins
import OrderDesk.Stamp

/-!
# Holdings

What a user holds of a coin follows from the orders that were filled. Buys add to the
amount and to the cost basis; sells take from the amount and leave the cost basis alone,
so the average buy price moves on buys only. Beside the totals the net amount is kept
for each venue, with the time of its latest trade.
-/

namespace OrderDesk

variable {K : Type} [Arith K]

/-- A filled order, as far as holdings are concerned. -/
structure Trade (K : Type) where
  /-- The venue, if it is known. -/
  venue : Option String
  /-- A buy; everything else is a sell. -/
  isBuy : Bool
  /-- The amount, if it is known. -/
  amount : Option K
  /-- The cost, if it is known. -/
  cost : Option K
  /-- The time, if it is known. -/
  time : Option Stamp

/-- What is held on one venue. -/
structure VenueHolding (K : Type) where
  venue : Option String
  amount : K
  /-- The time of the latest trade. -/
  lastUpdated : Option Stamp

/-- What is held of a coin. -/
structure HoldingsSnapshot (K : Type) where
  coinId : String
  coinSymbol : String
  totalAmount : K
  /-- What a unit cost on average. -/
  averageBuyPrice : K
  /-- What a unit is worth. -/
  currentPrice : K
  /-- What the amount is worth. -/
  currentValue : K
  investedAmount : K
  profitLoss : K
  /-- The difference in percent of what the amount cost. -/
  profitLossPercentage : K
  /-- The venues with a positive net amount, in the order of their first trades. -/
  venues : List (VenueHolding K)

namespace Holdings

/-- The sums over all trades. -/
structure Totals (K : Type) where
  bought : K
  sold : K
  costBasis : K

/-- The later of two times. -/
def later (latest time : Option Stamp) : Option Stamp :=
  match latest, time with
  | none, t => t
  | some a, none => some a
  | some a, some b => if a.before b then some b else some a

/-- The amount of a trade; an unknown amount counts as zero. -/
def amountOf (t : Trade K) : K := Arith.orElse t.amount 0

/-- The cost of a trade; an unknown cost counts as zero. -/
def costOf (t : Trade K) : K := Arith.orElse t.cost 0

/-- The totals after one more trade. -/
def addToTotals (s : Totals K) (t : Trade K) : Totals K :=
  if t.isBuy then ⟨s.bought + amountOf t, s.sold, s.costBasis + costOf t⟩
  else ⟨s.bought, s.sold + amountOf t, s.costBasis⟩

/-- What is held on a venue after one more trade there. -/
def addToVenue (h : VenueHolding K) (t : Trade K) : VenueHolding K :=
  { h with
    amount := if t.isBuy then h.amount + amountOf t else h.amount - amountOf t
    lastUpdated := later h.lastUpdated t.time }

/-- The holdings by venue after one more trade. -/
def addToVenues (t : Trade K) : List (VenueHolding K) → List (VenueHolding K)
  | [] => [addToVenue ⟨t.venue, 0, none⟩ t]
  | h :: rest => if h.venue == t.venue then addToVenue h t :: rest else h :: addToVenues t rest

/-- The totals of several trades. -/
def totals (trades : List (Trade K)) : Totals K := trades.foldl addToTotals ⟨0, 0, 0⟩

/-- The holdings by venue of several trades. -/
def byVenue (trades : List (Trade K)) : List (VenueHolding K) :=
  trades.foldl (fun hs t => addToVenues t hs) []

/-- The snapshot of a coin without any trade. -/
def empty (coin : Coin K) : HoldingsSnapshot K := ⟨coin.id, coin.symbol, 0, 0, 0, 0, 0, 0, 0, []⟩

/-- **What is held of a coin**, from its filled orders. -/
def snapshot (coin : Coin K) (trades : List (Trade K)) : HoldingsSnapshot K :=
  match trades with
  | [] => empty coin
  | trades =>
    let s := totals trades
    let average := if 0 < s.bought then s.costBasis / s.bought else 0
    let amount := s.bought - s.sold
    let price := Arith.orElse coin.price 0
    let value := amount * price
    let invested := amount * average
    let profit := value - invested
    { coinId := coin.id
      coinSymbol := coin.symbol
      totalAmount := amount
      averageBuyPrice := average
      currentPrice := price
      currentValue := value
      investedAmount := invested
      profitLoss := profit
      profitLossPercentage :=
        if Arith.nonzero invested then profit / invested * Arith.hundred else 0
      venues := (byVenue trades).filter fun h => 0 < h.amount }

end Holdings

end OrderDesk

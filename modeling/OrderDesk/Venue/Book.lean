import OrderDesk.Payload.Reading
import OrderDesk.Order.Terms

/-!
# Order books

The offers on a venue, best first on either side. Who buys consumes the asks, who
sells the bids.
-/

namespace OrderDesk

/-- An amount on offer at a price. -/
structure Level (K : Type) where
  price : K
  /-- How much is offered at it. -/
  amount : K
  deriving Repr

/-- The offers on both sides of a pair. -/
structure Book (K : Type) where
  /-- What buyers offer, highest price first. -/
  bids : List (Level K)
  /-- What sellers offer, lowest price first. -/
  asks : List (Level K)
  deriving Repr

namespace Book

/-- The offers that an order on the given side consumes. -/
def offersFor {K : Type} (b : Book K) : Side → List (Level K)
  | .buy => b.asks
  | .sell => b.bids

/-- One level from what the venue wrote; none when it has fewer than two parts. -/
def readLevel? (p : Payload) : Except Fault (Option (Level Float)) := do
  if (← p.size) < 2 then return none
  let price ← (← p.item 0).number
  let amount ← (← p.item 1).number
  return some ⟨price, amount⟩

/-- The levels of one side. -/
def readLevels (p : Payload) : Except Fault (List (Level Float)) := do
  return (← (← p.items).mapM readLevel?).filterMap id

/-- A side that the venue left out has no levels. -/
def readSide (p : Payload) (name : String) : Except Fault (List (Level Float)) := do
  readLevels ((← p.field? name).getD (.list []))

/-- A book from what the venue wrote. -/
def read (p : Payload) : Except Fault (Book Float) := do
  let bids ← readSide p "bids"
  let asks ← readSide p "asks"
  return ⟨bids, asks⟩

end Book

end OrderDesk

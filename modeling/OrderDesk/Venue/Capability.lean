import OrderDesk.Order.Terms

/-!
# What is known of a venue beforehand

Some venues do not say which order types they accept or what they charge. For these
questions there are fixed answers: a table of the order types each known venue
accepts, and its published base fees. A venue outside the tables accepts market and
limit orders and charges what the desk assumes.
-/

namespace OrderDesk

/-- What a venue accepts. -/
structure VenueSupport where
  /-- The order types it accepts. -/
  types : List OrderType
  /-- The times in force it accepts. -/
  timesInForce : List TimeInForce
  /-- It pairs a take-profit with a stop-loss itself. -/
  hasOco : Bool := false
  /-- It moves trailing stops itself. -/
  hasTrailingStop : Bool := false
  deriving DecidableEq, Repr

/-- A maker rate and a taker rate, as fractions of the order's value. -/
structure FeeRates (K : Type) where
  /-- For orders that add liquidity. -/
  maker : K
  /-- For orders that take it. -/
  taker : K
  deriving Repr

namespace Venue

/-- The venues whose order types are known. -/
def supportTable : List (String × VenueSupport) :=
  [("binanceus",
    { types := [.market, .limit, .stopLoss, .stopLimit, .takeProfit, .oco]
      timesInForce := [.gtc, .ioc, .fok]
      hasOco := true }),
   ("binance",
    { types := [.market, .limit, .stopLoss, .stopLimit, .trailingStop, .takeProfit, .oco]
      timesInForce := [.gtc, .ioc, .fok]
      hasOco := true
      hasTrailingStop := true }),
   ("coinbase",
    { types := [.market, .limit, .stopLoss]
      timesInForce := [.gtc, .ioc] }),
   ("coinbaseexchange",
    { types := [.market, .limit, .stopLoss]
      timesInForce := [.gtc, .ioc] }),
   ("kraken",
    { types := [.market, .limit, .stopLoss, .stopLimit, .takeProfit]
      timesInForce := [.gtc, .ioc] }),
   ("kucoin",
    { types := [.market, .limit, .stopLoss, .stopLimit, .trailingStop]
      timesInForce := [.gtc, .ioc, .fok]
      hasTrailingStop := true }),
   ("okx",
    { types := [.market, .limit, .stopLoss, .stopLimit, .trailingStop, .takeProfit]
      timesInForce := [.gtc, .ioc, .fok]
      hasTrailingStop := true })]

/-- What a venue outside the table accepts. -/
def defaultSupport : VenueSupport :=
  { types := [.market, .limit], timesInForce := [.gtc] }

/-- What a venue accepts. -/
def support (slug : String) : VenueSupport := (supportTable.lookup slug).getD defaultSupport

/-- A venue accepts an order type. -/
def supports (slug : String) (type : OrderType) : Bool := (support slug).types.contains type

/-- The published base fees of the known venues. -/
def feeTable : List (String × FeeRates Float) :=
  [("binance", ⟨0.001, 0.001⟩), ("binanceus", ⟨0.001, 0.001⟩),
   ("coinbase", ⟨0.004, 0.006⟩), ("coinbaseexchange", ⟨0.004, 0.006⟩),
   ("kraken", ⟨0.0025, 0.004⟩), ("kucoin", ⟨0.001, 0.001⟩), ("okx", ⟨0.0008, 0.001⟩),
   ("bybit", ⟨0.001, 0.001⟩), ("gemini", ⟨0.002, 0.004⟩)]

/-- What is assumed of a venue whose fees nobody knows. -/
def assumedFees : FeeRates Float := ⟨0.001, 0.001⟩

/-- The fees of a venue that does not say them, or the given ones for an unknown
venue. -/
def publishedFees (slug : String) (fallback : FeeRates Float) : FeeRates Float :=
  (feeTable.lookup slug).getD fallback

end Venue

end OrderDesk

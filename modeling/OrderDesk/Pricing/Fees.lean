import OrderDesk.Venue.Session
import OrderDesk.Number.Arith

/-!
# Fees

Three sources say what an order will be charged, and the first that knows is believed:
the fees of the account, the rates of the loaded markets, and the published tables.
The account's fees name the symbol or, failing that, stand for their first entry; of
the markets the symbol's own comes first, then the others in their order. A source that
fails is passed over with a notice, so a rate is always found.
-/

namespace OrderDesk

/-- Where a rate comes from. -/
inductive FeeSource where
  /-- The fees of the account. -/
  | account
  /-- The rates of a market. -/
  | market
  | published
  deriving DecidableEq, Repr

/-- The name of a source. -/
def FeeSource.name : FeeSource → String
  | .account => "api"
  | .market => "market"
  | .published => "default"

/-- The rate for an order, with the pair of rates it was taken from. -/
structure FeeRate where
  /-- The rate for the order. -/
  rate : Float
  maker : Float
  taker : Float
  /-- Where the rates come from. -/
  source : FeeSource

/-- What an order will be charged. -/
structure FeeEstimate where
  rate : Float
  amount : Float
  /-- The currency of the amount. -/
  currency : String
  /-- Where the rate comes from. -/
  source : FeeSource

namespace FeeRates

/-- The rate for an order type: only a limit order waits in the book and adds
liquidity. -/
def pick {K : Type} (rates : FeeRates K) (type : OrderType) : K :=
  if type == .limit then rates.maker else rates.taker

/-- The rate for an order type, with its source. -/
def rateFor (rates : FeeRates Float) (type : OrderType) (source : FeeSource) : FeeRate :=
  ⟨rates.pick type, rates.maker, rates.taker, source⟩

end FeeRates

namespace Fees

/-- The entry for a symbol among the fees of the account, else the first entry. -/
def accountEntry? (fees : List (String × FeeRates Float)) (symbol : Option String) :
    Option (FeeRates Float) :=
  let named := (symbol.filter (!·.isEmpty)).bind fun s => fees.lookup s
  named <|> fees.head?.map Prod.snd

/-- The rates of the symbol's market, else of the first market that states both. -/
def marketEntry? (markets : Market.Listing) (symbol : Option String) :
    Option (FeeRates Float) :=
  let candidates := (symbol.bind fun s => markets.lookup s).toList ++ markets.map Prod.snd
  candidates.findSome? fun m => m.rates?.map fun (maker, taker) => ⟨maker, taker⟩

/-- The fees of the account, or a notice when they cannot be had. -/
def fromAccount (symbol : Option String) : StateM Session (Option (FeeRates Float)) := do
  match ← (Line.fetchTradingFees).run with
  | .ok fees => return accountEntry? fees symbol
  | .error e =>
    modify fun s => s.notify (.feesUnavailable s.slug e.message)
    return none

/-- Markets are loaded when there are none, and a failure is a notice. -/
def ensureMarkets : StateM Session Unit := do
  if (← get).markets.isEmpty then
    match ← (Line.fetchMarkets).run with
    | .ok _ => return
    | .error e => modify fun s => s.notify (.marketsUnavailable s.slug e.message)

/-- **The rate for an order.** It never fails: the published tables have an answer for
every venue. -/
def resolve (type : OrderType) (symbol : Option String) (fallback : FeeRates Float) :
    StateM Session FeeRate := do
  match ← fromAccount symbol with
  | some rates => return rates.rateFor type .account
  | none =>
    ensureMarkets
    let s ← get
    match marketEntry? s.markets symbol with
    | some rates => return rates.rateFor type .market
    | none => return (Venue.publishedFees s.slug fallback).rateFor type .published

/-- **What an order of a given value will be charged.** -/
def estimate (type : OrderType) (value : Float) (currency : String) (symbol : Option String)
    (fallback : FeeRates Float) : StateM Session FeeEstimate := do
  let rate ← resolve type symbol fallback
  return ⟨rate.rate, value * rate.rate, currency, rate.source⟩

end Fees

end OrderDesk

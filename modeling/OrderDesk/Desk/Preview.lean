import OrderDesk.Desk.Leg
import OrderDesk.Number.Places

/-!
# Previews

A preview says what an order would cost and what speaks against it, and places nothing:
it is an operation on the floor, so it cannot touch the store. It asks the venue for the
price, the book and the fees of the order, all of which must be had except the fees,
and for the balance, whose absence is a warning.

Warnings come in a fixed order: first what concerns the balance, then, for orders that
are placed by hand, what concerns the price and the slippage. `Preview.warnings` holds
all of them, as a function of what was found out.
-/

namespace OrderDesk

/-- What a venue lets one expect of an order that was not placed. -/
structure Appraisal where
  /-- The price of the pair. -/
  marketPrice : Float
  /-- What the order is worth. -/
  value : Float
  /-- The slippage of a market order. -/
  slippage : Option Float
  fee : FeeEstimate

/-- What the account must hold for an order. -/
structure Requirement where
  currency : String
  amount : Float

/-- What an order would cost, and what speaks against it. -/
structure OrderPreview where
  request : OrderRequest
  /-- The pair as the venue writes it. -/
  symbol : String
  /-- What the venue lets one expect. -/
  appraisal : Appraisal
  /-- What the account must hold. -/
  requirement : Requirement
  available : Float
  isCovered : Bool
  /-- What speaks against the order. -/
  warnings : List String
  /-- The order types that the venue takes. -/
  supportedTypes : List OrderType

namespace Preview

/-- **The price at which a preview reckons an order**: the market's for a market order,
the profit target for a pair, and otherwise the first price that the request states. -/
def priceOf (r : OrderRequest) (marketPrice : Float) : Float :=
  match r.type with
  | .market => marketPrice
  | .oco => (OrderRequest.stated r.takeProfitPrice).getD marketPrice
  | _ =>
    (OrderRequest.stated r.price <|> OrderRequest.stated r.stopPrice
      <|> OrderRequest.stated r.takeProfitPrice).getD marketPrice

/-- The order type whose fee is charged: a pair is charged as its profit leg, which is a
limit order. -/
def chargedType : OrderType → OrderType
  | .oco => .limit
  | type => type

/-- What the venue lets one expect of an order. -/
def appraise (ref : Reference) (ctx : Context) (r : OrderRequest) : Line Appraisal := do
  let quote ← Line.fetchTicker ctx.symbol
  let value := r.quantity * priceOf r quote.last
  let slippage ← if r.type == .market then
      some <$> Floor.slippageOnLine ref ctx r.side r.quantity
    else pure none
  let fee ← (Fees.estimate (chargedType r.type) value ctx.quote.symbol (some ctx.symbol)
    (Floor.fallbackFees ref) : StateM Session FeeEstimate)
  return ⟨quote.last, value, slippage, fee⟩

/-- **What the account must hold**: the value and the fee in the quote coin for a buy,
the quantity in the base coin for a sell. -/
def requirement (ctx : Context) (r : OrderRequest) (a : Appraisal) : Requirement :=
  match r.side with
  | .buy => ⟨ctx.quote.symbol, a.value + a.fee.amount⟩
  | .sell => ⟨ctx.base.symbol, r.quantity⟩

/-- What is free of a currency; none, with a notice, when the venue does not say. -/
def available? (ctx : Context) (r : OrderRequest) (currency : String) :
    StateM Floor (Option Float) := do
  match ← Floor.trySpeak ctx Line.fetchBalance with
  | .ok balance => return some (balance.available currency)
  | .error e =>
    modify (·.notify (.balanceUnavailable r.venue e.message))
    return none

/-- An unknown balance counts as nothing. -/
def covers (available : Option Float) (need : Requirement) : Bool :=
  need.amount ≤ available.getD 0.0

/-- The distance of a price from the market's, in percent of the latter. -/
def deviation (price marketPrice : Float) : Float :=
  Arith.gap price marketPrice / marketPrice * 100.0

/-- A line of text when a condition holds. -/
def lineIf (condition : Bool) (line : String) : List String := if condition then [line] else []

/-- Warnings about the balance. -/
def balanceWarnings (r : OrderRequest) (need : Requirement) (available : Option Float) :
    List String :=
  lineIf available.isNone s!"Unable to fetch {need.currency} balance from {r.venue}" ++
  lineIf (!covers available need)
    (s!"Insufficient {need.currency} balance: required " ++ Number.placesText 8 need.amount
      ++ ", available " ++ Number.placesText 8 (available.getD 0.0))

/-- A warning about a limit that is far from the market. -/
def priceWarnings (settings : Settings) (r : OrderRequest) (marketPrice : Float) : List String :=
  match OrderRequest.stated r.price with
  | some price =>
    let d := deviation price marketPrice
    lineIf (0.0 < marketPrice && settings.priceDeviationWarning < d)
      ("Price deviates " ++ Number.placesText 2 d ++ "% from market price "
        ++ Number.text marketPrice)
  | none => []

/-- A warning about high slippage. -/
def slippageWarnings (settings : Settings) (slippage : Option Float) : List String :=
  match slippage with
  | some s =>
    lineIf (settings.highSlippageWarning < s)
      ("High estimated slippage: " ++ Number.placesText 2 s ++ "%")
  | none => []

/-- **All warnings of a preview**, in their order. -/
def warnings (settings : Settings) (r : OrderRequest) (isManual : Bool) (a : Appraisal)
    (need : Requirement) (available : Option Float) : List String :=
  balanceWarnings r need available ++
    (if isManual then
      priceWarnings settings r a.marketPrice ++ slippageWarnings settings a.slippage
    else [])

/-- What was found out about an order, as its preview. -/
def assemble (ref : Reference) (ctx : Context) (r : OrderRequest) (isManual : Bool)
    (a : Appraisal) (available : Option Float) : OrderPreview :=
  let need := requirement ctx r a
  { request := r
    symbol := ctx.symbol
    appraisal := a
    requirement := need
    available := available.getD 0.0
    isCovered := covers available need
    warnings := warnings ref.settings r isManual a need available
    supportedTypes := (Venue.support r.venue).types }

end Preview

namespace Floor

/-- The preview of an order for one kind of placement. -/
def previewFor (ref : Reference) (r : OrderRequest) (user : String) (isManual : Bool) :
    FloorM OrderPreview := do
  let ctx ← context ref r user
  let appraisal ← speak ctx (Preview.appraise ref ctx r)
  let need := Preview.requirement ctx r appraisal
  let available ← (Preview.available? ctx r need.currency : StateM Floor (Option Float))
  return Preview.assemble ref ctx r isManual appraisal available

/-- **The preview of an order that a strategy would place.** Any order type is
previewed. -/
def preview (ref : Reference) (r : OrderRequest) (user : String) : FloorM OrderPreview :=
  previewFor ref r user false

/-- **The preview of an order that would be placed by hand.** The request must be
complete. -/
def previewManual (ref : Reference) (r : OrderRequest) (user : String) :
    FloorM OrderPreview := do
  check r.ensureComplete
  previewFor ref r user true

end Floor

end OrderDesk

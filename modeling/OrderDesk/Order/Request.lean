import OrderDesk.Form

/-!
# Order requests

What a caller asks for: a side, a type and a quantity on one venue, and a pair that is
given by the identifiers of its two coins or by a symbol. Which of the other fields an
order needs depends on its type and is checked when it is placed.
-/

namespace OrderDesk

/-- An order as it is asked for. -/
structure OrderRequest where
  /-- The venue that the order is meant for. -/
  venue : String
  side : Side
  type : OrderType
  /-- How much of the base coin. -/
  quantity : Float
  /-- The base coin, when the pair is given by coins. -/
  baseCoin : Option String
  /-- The quote coin, when the pair is given by coins. -/
  quoteCoin : Option String
  /-- The pair as a symbol. -/
  symbol : Option String
  price : Option Float
  /-- The price at which a stop becomes active. -/
  stopPrice : Option Float
  /-- The distance of a trailing stop. -/
  trailingAmount : Option Float
  /-- What the distance is measured in. -/
  trailingType : Option TrailingType
  /-- Where to take profit: a trigger, or a protective order beside the entry. -/
  takeProfitPrice : Option Float
  stopLossPrice : Option Float
  /-- How long the order stands. -/
  timeInForce : Option TimeInForce
  clientId : Option String
  /-- The request comes from a strategy. -/
  isAlgorithmic : Bool

namespace OrderRequest

/-- An optional text that says something. -/
def given (s : Option String) : Bool := s.any (!·.isEmpty)

/-- The pair is named in one of the two ways. -/
def namesPair (r : OrderRequest) : Bool :=
  given r.symbol || (given r.baseCoin && given r.quoteCoin)

/-- What is said when the pair is not named. -/
def pairComplaint (r : OrderRequest) : Option Form.Complaint :=
  if r.namesPair then none
  else some (.inconsistent "either symbol or both base_coin_id and quote_coin_id are required")

/-- **An order request from a form.** Every field is checked, and the pair only when
all fields are good. -/
def read (form : List (String × Payload)) : Form.Checked OrderRequest :=
  Form.Checked.andCheck
    (mk <$> Form.required form "exchange_slug" Form.asText
      <*> Form.required form "side" (Form.asMember Side)
      <*> Form.withDefault form "order_type" .market (Form.asMember OrderType)
      <*> Form.required form "quantity" Form.asPositive
      <*> Form.optional form "base_coin_id" Form.asText
      <*> Form.optional form "quote_coin_id" Form.asText
      <*> Form.optional form "symbol" Form.asText
      <*> Form.optional form "price" Form.asPositive
      <*> Form.optional form "stop_price" Form.asPositive
      <*> Form.optional form "trailing_amount" Form.asPositive
      <*> Form.optional form "trailing_type" (Form.asMember TrailingType)
      <*> Form.optional form "take_profit_price" Form.asPositive
      <*> Form.optional form "stop_loss_price" Form.asPositive
      <*> Form.optional form "time_in_force" (Form.asMember TimeInForce)
      <*> Form.optional form "client_order_id" Form.asText
      <*> Form.withDefault form "is_algorithmic_trade" false Form.asFlag)
    pairComplaint

/-- Only a limit order waits in the book and adds liquidity. -/
def isMaker (r : OrderRequest) : Bool := r.type == .limit

/-- The request as a form again, every field written out. -/
def toForm (r : OrderRequest) : List (String × Payload) :=
  [("exchange_slug", .text r.venue),
   ("side", .text r.side.name),
   ("order_type", .text r.type.name),
   ("quantity", .real r.quantity),
   ("base_coin_id", .ofText? r.baseCoin),
   ("quote_coin_id", .ofText? r.quoteCoin),
   ("symbol", .ofText? r.symbol),
   ("price", .ofReal? r.price),
   ("stop_price", .ofReal? r.stopPrice),
   ("trailing_amount", .ofReal? r.trailingAmount),
   ("trailing_type", .ofText? (r.trailingType.map TrailingType.name)),
   ("take_profit_price", .ofReal? r.takeProfitPrice),
   ("stop_loss_price", .ofReal? r.stopLossPrice),
   ("time_in_force", .ofText? (r.timeInForce.map TimeInForce.name)),
   ("client_order_id", .ofText? r.clientId),
   ("is_algorithmic_trade", .flag r.isAlgorithmic)]

end OrderRequest

end OrderDesk

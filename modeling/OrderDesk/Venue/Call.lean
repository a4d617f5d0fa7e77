import OrderDesk.Venue.Submission

/-!
# Calls to venues

Every call that reaches a venue is entered in a journal before anything else happens
to it, whether it succeeds or not. What the desk did to the outside world can be read
off the journal alone.
-/

namespace OrderDesk

/-- The calls that a venue answers. -/
inductive VenueMethod where
  | loadMarkets
  | fetchTicker
  | fetchOrderBook
  | fetchBalance
  | fetchTradingFees
  | createOrder
  | cancelOrder
  | close
  deriving DecidableEq, Repr

/-- The name of a venue's method. -/
def VenueMethod.name : VenueMethod → String
  | .loadMarkets => "load_markets"
  | .fetchTicker => "fetch_ticker"
  | .fetchOrderBook => "fetch_order_book"
  | .fetchBalance => "fetch_balance"
  | .fetchTradingFees => "fetch_trading_fees"
  | .createOrder => "create_order"
  | .cancelOrder => "cancel_order"
  | .close => "close"

/-- All methods. -/
def VenueMethod.all : List VenueMethod :=
  [.loadMarkets, .fetchTicker, .fetchOrderBook, .fetchBalance, .fetchTradingFees,
   .createOrder, .cancelOrder, .close]

/-- The options that a client for a venue is built with. -/
structure ClientOptions where
  /-- How long the client waits, in milliseconds. -/
  timeout : Int
  /-- The client paces its calls. -/
  enableRateLimit : Bool
  /-- The key and the secret of the account, when there is one. -/
  keys : Option (String × String)
  /-- The password of the account, when it has one. -/
  password : Option String
  deriving DecidableEq, Repr

/-- A call, with its arguments. -/
inductive VenueCall where
  | build (slug : String) (options : ClientOptions)
  /-- The client is switched to the venue's sandbox. -/
  | sandbox
  | loadMarkets
  /-- The price of a pair is asked for. -/
  | fetchTicker (symbol : String)
  /-- The book of a pair is asked for. -/
  | fetchOrderBook (symbol : String) (depth : Int)
  /-- The holdings of the account are asked for. -/
  | fetchBalance
  /-- The fees of the account are asked for. -/
  | fetchTradingFees
  | createOrder (order : Submission)
  /-- An order is to be canceled. -/
  | cancelOrder (id symbol : String)
  | close

/-- A call and the venue it went to. -/
structure JournalEntry where
  slug : String
  call : VenueCall

namespace JournalEntry

/-- The submission that an entry records. -/
def submission? (e : JournalEntry) : Option Submission :=
  match e.call with
  | .createOrder order => some order
  | _ => none

/-- The identifier and the symbol of the cancel that an entry records. -/
def cancel? (e : JournalEntry) : Option (String × String) :=
  match e.call with
  | .cancelOrder id symbol => some (id, symbol)
  | _ => none

end JournalEntry

end OrderDesk

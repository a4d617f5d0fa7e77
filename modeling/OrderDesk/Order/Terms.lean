/-!
# The vocabulary of orders

Sides, order types, statuses, trailing types and times in force are closed
vocabularies: each has finitely many members, each with one name, and no two members
share a name.
-/

namespace OrderDesk

/-- A closed vocabulary: its members and their names. -/
class Vocabulary (α : Type) where
  /-- All members, in their conventional order. -/
  all : List α
  /-- The name of a member. -/
  name : α → String

namespace Vocabulary

/-- The member with a given name. -/
def ofName? {α : Type} [Vocabulary α] (s : String) : Option α :=
  (all : List α).find? fun a => name a == s

/-- The names of all members. -/
def names (α : Type) [Vocabulary α] : List String := (all : List α).map name

end Vocabulary

/-- The two sides of a trade. -/
inductive Side where
  | buy
  | sell
  deriving DecidableEq, Repr

instance : Vocabulary Side where
  all := [.buy, .sell]
  name
    | .buy => "BUY"
    | .sell => "SELL"

/-- The side that undoes a trade. -/
def Side.opposite : Side → Side
  | .buy => .sell
  | .sell => .buy

/-- The types of order that the desk knows. -/
inductive OrderType where
  /-- At whatever price the book offers. -/
  | market
  /-- At a price or better. -/
  | limit
  /-- At the market once the price has fallen to a stop. -/
  | stopLoss
  /-- At a limit once a stop is reached. -/
  | stopLimit
  /-- A stop that follows the price. -/
  | trailingStop
  /-- At the market or a limit once a profit is reached. -/
  | takeProfit
  /-- A take-profit and a stop-loss of which one cancels the other. -/
  | oco
  deriving DecidableEq, Repr

instance : Vocabulary OrderType where
  all := [.market, .limit, .stopLoss, .stopLimit, .trailingStop, .takeProfit, .oco]
  name
    | .market => "MARKET"
    | .limit => "LIMIT"
    | .stopLoss => "STOP_LOSS"
    | .stopLimit => "STOP_LIMIT"
    | .trailingStop => "TRAILING_STOP"
    | .takeProfit => "TAKE_PROFIT"
    | .oco => "OCO"

/-- The life of an order. -/
inductive OrderStatus where
  | new
  | partiallyFilled
  | filled
  | canceled
  | rejected
  | expired
  | pendingCancel
  deriving DecidableEq, Repr

instance : Vocabulary OrderStatus where
  all := [.new, .partiallyFilled, .filled, .canceled, .rejected, .expired, .pendingCancel]
  name
    | .new => "NEW"
    | .partiallyFilled => "PARTIALLY_FILLED"
    | .filled => "FILLED"
    | .canceled => "CANCELED"
    | .rejected => "REJECTED"
    | .expired => "EXPIRED"
    | .pendingCancel => "PENDING_CANCEL"

/-- What a trailing distance is measured in. -/
inductive TrailingType where
  | amount
  | percentage
  deriving DecidableEq, Repr

instance : Vocabulary TrailingType where
  all := [.amount, .percentage]
  name
    | .amount => "AMOUNT"
    | .percentage => "PERCENTAGE"

/-- How long an order stands. -/
inductive TimeInForce where
  | gtc
  /-- At once, and what is left is canceled. -/
  | ioc
  /-- At once and whole, or not at all. -/
  | fok
  deriving DecidableEq, Repr

instance : Vocabulary TimeInForce where
  all := [.gtc, .ioc, .fok]
  name
    | .gtc => "GTC"
    | .ioc => "IOC"
    | .fok => "FOK"

/-- The name of a side. -/
def Side.name (s : Side) : String := Vocabulary.name s

/-- The name of an order type. -/
def OrderType.name (t : OrderType) : String := Vocabulary.name t

/-- The name of a status. -/
def OrderStatus.name (s : OrderStatus) : String := Vocabulary.name s

/-- The name of a trailing type. -/
def TrailingType.name (t : TrailingType) : String := Vocabulary.name t

/-- The name of a time in force. -/
def TimeInForce.name (t : TimeInForce) : String := Vocabulary.name t

/-- A status is the one with its name. -/
theorem OrderStatus.ofName?_name (s : OrderStatus) :
    Vocabulary.ofName? s.name = some s := by
  cases s <;> decide

/-- An order type is the one with its name. -/
theorem OrderType.ofName?_name (t : OrderType) : Vocabulary.ofName? t.name = some t := by
  cases t <;> decide

end OrderDesk

import OrderDesk.Fault
import OrderDesk.Number.Step
import OrderDesk.Order.Terms
import OrderDesk.Text.Case

/-!
# Refusals and failures

An operation of the desk that does not do what was asked ends in one of five ways. It
is refused for a reason that the desk knows beforehand; it names something that does
not exist; the venue fails to do it; the venue does it and the store does not record
it; or something unexpected happens. Every refusal has one cause, and its text is
decided by `Refusal.reason` alone.
-/

namespace OrderDesk

/-- Why the desk refuses to do something. -/
inductive Refusal where
  /-- The venue does not trade the pair. -/
  | unknownMarket (symbol : String)
  /-- The venue has suspended the pair. -/
  | suspended (symbol : String)
  /-- Nothing is left of the quantity after flooring. -/
  | quantityBelowStep (quantity : Float) (step : Option Step)
  /-- The floored quantity is too small. -/
  | quantityBelowMinimum (quantity minimum : Float)
  /-- The floored quantity is too large. -/
  | quantityAboveMaximum (quantity maximum : Float)
  /-- Nothing is left of the price after flooring. -/
  | priceBelowStep (price : Float) (step : Option Step)
  /-- The floored price is too low. -/
  | priceBelowMinimum (price minimum : Float)
  /-- The floored price is too high. -/
  | priceAboveMaximum (price maximum : Float)
  /-- The order is worth too little. -/
  | valueBelowMinimum (value minimum : Float)
  /-- The venue does not take orders of this type. -/
  | unsupportedType (type : OrderType) (slug : String)
  /-- Orders of this type are placed by hand only. -/
  | manualOnly (type : OrderType)
  /-- The order type needs a price. -/
  | priceRequired (type : OrderType)
  /-- The order type needs a stop price. -/
  | stopPriceRequired (type : OrderType)
  /-- A trailing stop needs its distance. -/
  | trailingRequired
  /-- A take-profit order needs its trigger. -/
  | targetRequired
  /-- A pair of orders needs both of its prices. -/
  | bothTargetsRequired
  /-- No known quote asset ends the symbol. -/
  | unreadableSymbol (symbol : String)
  /-- The order has been filled. -/
  | alreadyFilled
  /-- The order is in a status that allows no cancel. -/
  | notCancelable (status : OrderStatus)
  /-- The venue says that the order has been filled. -/
  | filledOnVenue
  /-- Words in a filter name nothing. -/
  | invalidFilter (name : String) (words : List String)

/-- A step inside a message. -/
def stepText (step : Option Step) : String := (step.map Step.text).getD "None"

/-- The text of a refusal. -/
def Refusal.reason : Refusal → String
  | unknownMarket symbol => s!"Trading pair {symbol} not found on exchange"
  | suspended symbol => s!"Trading is suspended for {symbol}"
  | quantityBelowStep q step =>
    "Quantity " ++ Number.text q ++ " is below the step size " ++ stepText step
  | quantityBelowMinimum q m =>
    "Quantity " ++ Number.text q ++ " is below minimum " ++ Number.text m
  | quantityAboveMaximum q m =>
    "Quantity " ++ Number.text q ++ " exceeds maximum " ++ Number.text m
  | priceBelowStep p step =>
    "Price " ++ Number.text p ++ " is below the tick size " ++ stepText step
  | priceBelowMinimum p m => "Price " ++ Number.text p ++ " is below minimum " ++ Number.text m
  | priceAboveMaximum p m => "Price " ++ Number.text p ++ " exceeds maximum " ++ Number.text m
  | valueBelowMinimum v m =>
    "Order value " ++ Number.text v ++ " is below minimum " ++ Number.text m
  | unsupportedType type slug => s!"Order type {type.name} is not supported on {slug}"
  | manualOnly type => s!"Order type {type.name} requires a manual order"
  | priceRequired type => s!"{type.name} orders require a price"
  | stopPriceRequired type => s!"{type.name} orders require a stop price"
  | trailingRequired => "TRAILING_STOP orders require a trailing amount and trailing type"
  | targetRequired => "TAKE_PROFIT orders require a take-profit price"
  | bothTargetsRequired =>
    "OCO orders require both a take-profit price and a stop-loss price"
  | unreadableSymbol symbol => s!"Cannot determine quote asset of symbol {symbol}"
  | alreadyFilled => "Cannot cancel a filled order"
  | notCancelable status => "Order is already " ++ Text.lower status.name
  | filledOnVenue => "Order has already been filled on the exchange"
  | invalidFilter name words =>
    "Invalid " ++ name ++ " filter: " ++ ", ".intercalate words

/-- Why an operation of the desk did not do what was asked. -/
inductive Failure where
  | refused (why : Refusal)
  /-- What was named does not exist, or belongs to somebody else. -/
  | missing (what : String)
  /-- The venue did not do it. -/
  | venue (operation : String) (reason : String)
  /-- The venue did it and the store did not record it. -/
  | unreconciled (operation : String) (venueOrderIds : List String)
      (symbol : Option String) (quantity : Option Float)
  | fault (cause : Fault)

/-- The text of a failure. -/
def Failure.message : Failure → String
  | refused why => why.reason
  | missing what => what
  | venue operation reason => s!"failed to {operation}: {reason}"
  | unreconciled operation _ _ _ => s!"failed to {operation}"
  | fault cause => cause.message

/-- A failure that the desk foresees, as opposed to a fault. -/
def Failure.isForeseen : Failure → Bool
  | fault _ => false
  | _ => true

end OrderDesk

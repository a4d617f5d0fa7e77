import OrderDesk.Payload.Basic
import OrderDesk.Number.Layout
import OrderDesk.Text.Quoted

/-!
# Faults

A fault is a failure that no rule of the desk provides for: the venue or the store
went wrong, or sent something that cannot be read. Faults are told apart by their
cause; what is written about one is decided by `Fault.message` alone.
-/

namespace OrderDesk

/-- What a reader asks of a payload. -/
inductive Need where
  /-- To look a field up. -/
  | lookup
  | entries
  | trimming
  /-- To put it in lower case. -/
  | lowering
  /-- To go through its items. -/
  | iteration
  | length
  /-- To take items by position. -/
  | position
  | number
  /-- To be a whole number. -/
  | whole
  deriving DecidableEq, Repr

/-- The causes of unexpected failures. -/
inductive Fault where
  /-- The venue or the store failed and said why. -/
  | outage (reason : String)
  /-- A field that must be there is missing. -/
  | missingField (name : String)
  /-- A position that must be there is missing. -/
  | missingPosition (index : Nat)
  /-- A text is no number. -/
  | unreadableNumber (source : String)
  /-- A text is no whole number. -/
  | unreadableWhole (source : String)
  /-- A payload of this shape cannot do what is asked of it. -/
  | unfit (kind : Payload.Kind) (need : Need)
  /-- A whole number is beyond the doubles. -/
  | beyondDouble
  /-- A count of milliseconds is beyond the doubles. -/
  | beyondSeconds
  /-- An infinite number was to become whole. -/
  | infiniteWhole
  /-- A number that is none was to become whole. -/
  | undefinedWhole
  /-- A time is beyond the clock's range. -/
  | beyondClock
  /-- A time is beyond the calendar's range. -/
  | beyondCalendar
  /-- A year lies outside the calendar. -/
  | yearOutOfRange (year : Int)
  /-- A quotient of infinities or a product of zero and infinity. -/
  | undefinedOperation
  /-- A status that no order can have. -/
  | unknownStatus (source : String)
  | unknownVenue (slug : String)
  /-- The venue's line cannot place orders of this type. -/
  | unknownOrderType (slug kind : String)
  /-- No known quote asset ends this symbol. -/
  | noQuote (symbol : String)
  /-- The store refused a row. -/
  | constraint (reason : String)
  /-- The store does not know the shape of a value. -/
  | unstorable (reason : String)
  /-- A whole number is beyond the store's range. -/
  | beyondStore
  deriving DecidableEq, Repr

/-- What is written about a payload that cannot do what is asked of it. -/
def Need.message (kind : Payload.Kind) : Need → String
  | .lookup => s!"'{kind.name}' object has no attribute 'get'"
  | .entries => s!"'{kind.name}' object has no attribute 'items'"
  | .trimming => s!"'{kind.name}' object has no attribute 'strip'"
  | .lowering => s!"'{kind.name}' object has no attribute 'lower'"
  | .iteration => s!"'{kind.name}' object is not iterable"
  | .length => s!"object of type '{kind.name}' has no len()"
  | .position => s!"'{kind.name}' object is not subscriptable"
  | .number => s!"float() argument must be a string or a real number, not '{kind.name}'"
  | .whole =>
    "int() argument must be a string, a bytes-like object or a real number, not "
      ++ s!"'{kind.name}'"

/-- A quoted text, of which at most two hundred characters are shown. -/
def Fault.excerpt (source : String) : String :=
  String.ofList ((Text.quoted source).toList.take 200)

/-- What is written about a fault. -/
def Fault.message : Fault → String
  | outage reason => reason
  | missingField name => Text.quoted name
  | missingPosition index => Number.digitsText index
  | unreadableNumber source => "could not convert string to float: " ++ Text.quoted source
  | unreadableWhole source => "invalid literal for int() with base 10: " ++ excerpt source
  | unfit kind need => need.message kind
  | beyondDouble => "int too large to convert to float"
  | beyondSeconds => "integer division result too large for a float"
  | infiniteWhole => "cannot convert float infinity to integer"
  | undefinedWhole => "cannot convert float NaN to integer"
  | beyondClock => "timestamp out of range for platform time_t"
  | beyondCalendar => "[Errno 75] Value too large for defined data type"
  | yearOutOfRange year => s!"year {Number.intText year} is out of range"
  | undefinedOperation => "[<class 'decimal.InvalidOperation'>]"
  | unknownStatus source => Text.quoted source ++ " is not a valid OrderStatus"
  | unknownVenue slug => "Unsupported exchange: " ++ slug
  | unknownOrderType slug kind => s!"Unsupported order type for {slug}: {kind}"
  | noQuote symbol => "Cannot determine quote asset of symbol " ++ symbol
  | constraint reason => reason
  | unstorable reason => reason
  | beyondStore => "Python int too large to convert to SQLite INTEGER"

end OrderDesk

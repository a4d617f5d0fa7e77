import OrderDesk.Venue.Ack
import OrderDesk.Venue.Answers
import OrderDesk.Venue.Balance
import OrderDesk.Venue.Book
import OrderDesk.Venue.Capability
import OrderDesk.Venue.Quote
import OrderDesk.Notice

/-!
# A session with a venue

Everything the desk asks of a venue goes through a session: the venue as it stands,
the markets that were loaded last, the journal of calls and the notices given so far.
A failed call leaves the session as the call left it, so what reached the venue stays
in the journal.

The loaded markets are replaced as a whole, by an answer all of whose markets can be
read, and by no other.
-/

namespace OrderDesk

/-- A conversation with one venue. -/
structure Session where
  slug : String
  venue : Venue
  /-- The markets that were loaded last. -/
  markets : Market.Listing
  journal : List JournalEntry
  notices : List Notice

/-- An exchange with a venue that may fail. -/
abbrev Line := ExceptT Fault (StateM Session)

namespace Session

/-- A call is entered in the journal. -/
def record (s : Session) (call : VenueCall) : Session :=
  { s with journal := s.journal ++ [⟨s.slug, call⟩] }

/-- A notice is given. -/
def notify (s : Session) (n : Notice) : Session := { s with notices := s.notices ++ [n] }

/-- An order is counted by the venue, whatever becomes of it. -/
def countSubmission (s : Session) : Session :=
  { s with venue := { s.venue with submissions := s.venue.submissions + 1 } }

/-- An order is accepted by the venue with an answer. -/
def accept (s : Session) (order : Submission) (answer : Payload) : Session :=
  { s with venue := { s.venue with accepted := s.venue.accepted ++ [(order, answer)] } }

end Session

namespace Line

/-- A fault unless the method is in order. -/
def ensureUp (m : VenueMethod) : Line Unit := do
  match (← get).venue.outage? m with
  | some reason => throw (.outage reason)
  | none => return

/-- A call: it is entered in the journal and fails when its method is out of order. -/
def call (m : VenueMethod) (c : VenueCall) : Line Unit := do
  modify (·.record c)
  ensureUp m

/-- The outcome of reading what the venue answered. -/
def ofExcept {α : Type} (x : Except Fault α) : Line α := ExceptT.mk (pure x)

/-- The markets are loaded, and replace those loaded before when all can be read. -/
def fetchMarkets : Line (List Market) := do
  call .loadMarkets .loadMarkets
  let s ← get
  let markets ← ofExcept (Market.readAll s.venue.precision s.venue.markets)
  modify ({ · with markets := markets })
  return markets.map Prod.snd

/-- The price of a pair. -/
def fetchTicker (symbol : String) : Line Quote := do
  call .fetchTicker (.fetchTicker symbol)
  ofExcept (Quote.read symbol (← get).venue.ticker)

/-- The book of a pair. -/
def fetchOrderBook (symbol : String) (depth : Int) : Line (Book Float) := do
  call .fetchOrderBook (.fetchOrderBook symbol depth)
  ofExcept (Book.read (← get).venue.book)

/-- The holdings of the account. -/
def fetchBalance : Line Balance := do
  call .fetchBalance .fetchBalance
  ofExcept (Balance.read (← get).venue.balance)

/-- The fees by symbol; entries that do not state both rates are left out. -/
def readFees : List (String × Payload) → Except Fault (List (String × FeeRates Float))
  | [] => .ok []
  | (symbol, .object fields) :: rest => do
    let maker ← (Payload.object fields).numberAt? "maker"
    let taker ← (Payload.object fields).numberAt? "taker"
    let others ← readFees rest
    match maker, taker with
    | some maker, some taker => return (symbol, ⟨maker, taker⟩) :: others
    | _, _ => return others
  | _ :: rest => readFees rest

/-- The fees of the account by symbol. -/
def fetchTradingFees : Line (List (String × FeeRates Float)) := do
  call .fetchTradingFees .fetchTradingFees
  ofExcept (readFees (← get).venue.fees)

/-- The venue's answer to an order, taken from its row of answers. -/
def takeOrderAnswer : Line Payload := do
  let s ← get
  let (answer, venue) := s.venue.answerOrder
  set { s with venue := venue }
  match answer with
  | .ok p => return p
  | .error reason => throw (.outage reason)

/-- The venue's answer to a cancel, taken from its row of answers. -/
def takeCancelAnswer (id : String) : Line Payload := do
  let s ← get
  let (answer, venue) := s.venue.answerCancel id
  set { s with venue := venue }
  match answer with
  | .ok p => return p
  | .error reason => throw (.outage reason)

/-- The venue's bare answer to a submission. An order that is answered is accepted,
whatever the answer looks like. -/
def createOrder (order : Submission) : Line Payload := do
  modify (·.record (.createOrder order))
  modify (·.countSubmission)
  ensureUp .createOrder
  let answer ← takeOrderAnswer
  modify (·.accept order answer)
  return answer

/-- **An order is submitted**: shaped for the venue, sent, and its answer read. -/
def submit (i : Instruction) : Line Ack := do
  let order ← ofExcept (i.shape (← get).slug)
  let answer ← createOrder order
  ofExcept (Ack.read order.symbol order.side order.execution.word answer)

/-- The venue's bare answer to a cancel. -/
def cancelOrder (id symbol : String) : Line Payload := do
  call .cancelOrder (.cancelOrder id symbol)
  takeCancelAnswer id

/-- **An order is canceled** at the venue; an empty answer is no acknowledgement. -/
def cancel (id symbol : String) : Line (Option Ack) := do
  let answer ← cancelOrder id symbol
  if answer.isPresent then return some (← ofExcept (Ack.read symbol "" "" answer))
  else return none

/-- The client is closed. -/
def close : Line Unit := call .close .close

end Line

end OrderDesk

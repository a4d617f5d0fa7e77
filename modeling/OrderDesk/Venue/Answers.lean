import OrderDesk.Venue.Call
import OrderDesk.Venue.Market

/-!
# A venue and its answers

Seen from the desk, a venue is what it answers: one payload for each question about
markets, prices, holdings and fees, and a row of answers to the orders and to the
cancels that it will receive. A method can be out of order, and an order or a cancel
can be refused; both come with a reason.
-/

namespace OrderDesk

/-- An answer to an order. -/
inductive OrderAnswer where
  | refused (reason : String)
  /-- The order is accepted under the identifier in the payload, or under the venue's
  running number when there is none. -/
  | accepted (p : Payload)
  /-- The order is accepted and the answer is passed on as it stands. -/
  | bare (p : Payload)

/-- An answer to a cancel. -/
inductive CancelAnswer where
  | refused (reason : String)
  | answered (p : Payload)

/-- A venue as the desk sees it. -/
structure Venue where
  /-- How it states its precision. -/
  precision : PrecisionMode := .tickSize
  /-- Its markets under their keys. -/
  markets : List (String × Payload) := []
  fees : List (String × Payload) := []
  /-- What it says about prices. -/
  ticker : Payload := .object []
  /-- What it says about its book. -/
  book : Payload := .object []
  /-- What it says about the account. -/
  balance : Payload := .object []
  /-- Its answers to the next orders. -/
  acks : List OrderAnswer := []
  /-- Its answers to the next cancels. -/
  cancels : List CancelAnswer := []
  /-- The methods that are out of order, and why. -/
  outages : List (VenueMethod × String) := []
  /-- How many orders it has been sent. -/
  submissions : Nat := 0
  /-- The orders that it has accepted, each with its answer. -/
  accepted : List (Submission × Payload) := []

namespace Venue

/-- Why a method is out of order, if it is. -/
def outage? (v : Venue) (m : VenueMethod) : Option String := v.outages.lookup m

/-- The running number of the latest order. -/
def runningId (v : Venue) : Payload := .text ("v" ++ Number.digitsText v.submissions)

/-- A payload with an identifier, which is added when there is none. -/
def withId (id : Payload) : Payload → Payload
  | .object fields =>
    if (fields.lookup "id").isSome then .object fields
    else .object (Payload.put "id" id fields)
  | p => p

/-- The next answer to an order, and the venue after it. A venue that has run out of
answers accepts the order and leaves it open. -/
def answerOrder (v : Venue) : Except String Payload × Venue :=
  match v.acks with
  | [] => (.ok (.object [("id", v.runningId), ("status", .text "open")]), v)
  | .refused reason :: rest => (.error reason, { v with acks := rest })
  | .accepted p :: rest => (.ok (withId v.runningId p), { v with acks := rest })
  | .bare p :: rest => (.ok p, { v with acks := rest })

/-- The next answer to a cancel, and the venue after it. A venue that has run out of
answers confirms the cancel. -/
def answerCancel (v : Venue) (id : String) : Except String Payload × Venue :=
  match v.cancels with
  | [] => (.ok (.object [("id", .text id), ("status", .text "canceled")]), v)
  | .refused reason :: rest => (.error reason, { v with cancels := rest })
  | .answered p :: rest => (.ok p, { v with cancels := rest })

end Venue

end OrderDesk

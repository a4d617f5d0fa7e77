import OrderDesk.Number.Arith
import OrderDesk.Order.Terms

/-!
# What an order's acknowledgement says about its execution

Venues report as much of an execution as they please: the amount, how much of it is
filled, the average price, the cost. What they leave out is inferred from the rest, and
from the order itself. An order is never executed beyond its quantity.
-/

namespace OrderDesk

variable {K : Type} [Arith K]

/-- What a venue reports about an order; every part may be missing. -/
structure ExecutionReport (K : Type) where
  amount : Option K
  filled : Option K
  price : Option K
  /-- The average price of the fills. -/
  average : Option K
  cost : Option K

/-- What is booked for an order. -/
structure Booking (K : Type) where
  quantity : K
  executed : K
  /-- The limit, if there is one. -/
  price : Option K
  /-- The average price of the fills, if it can be told. -/
  average : Option K
  cost : K

namespace Booking

/-- The first number when it is given and not zero, else the second. -/
def either (x y : Option K) : Option K :=
  match x with
  | some v => if Arith.nonzero v then some v else y
  | none => y

/-- A number that is given and not zero. -/
def stated (x : Option K) : Option K := either x none

/-- The amount filled: as reported, else all or nothing by the status; never more than
the quantity. -/
def executedOf (status : OrderStatus) (filled : Option K) (quantity : K) : K :=
  Arith.cap (filled.getD (if status == .filled then quantity else 0)) quantity

/-- The average price: as reported, else the cost over the amount filled, else the
limit. Without a fill there is none to infer. -/
def averageOf (reported cost price : Option K) (executed : K) : Option K :=
  match reported with
  | some a => some a
  | none =>
    if 0 < executed then
      match stated cost with
      | some c => some (c / executed)
      | none => stated price
    else none

/-- The cost: as reported, else the amount filled at the average price. -/
def costOf (reported average : Option K) (executed : K) : K :=
  match reported with
  | some c => c
  | none =>
    match stated average with
    | some a => executed * a
    | none => 0

/-- **What is booked** for an order of a quantity and a limit, from its status and the
venue's report. -/
def infer (status : OrderStatus) (report : ExecutionReport K) (quantity : K)
    (limit : Option K) : Booking K :=
  let quantity := Arith.orElse report.amount quantity
  let executed := executedOf status report.filled quantity
  let price := either report.price limit
  let average := averageOf report.average report.cost price executed
  ⟨quantity, executed, price, average, costOf report.cost average executed⟩

end Booking

end OrderDesk

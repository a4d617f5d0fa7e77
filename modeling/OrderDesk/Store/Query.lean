import OrderDesk.Store.Basic

/-!
# Queries on the store

A query asks for the orders of one user. Each restriction is a list of words that a
column must be among; an empty list restricts nothing, and neither does a limit that is
not positive. The newest order comes first, and of two written at the same time the one
written last.
-/

namespace OrderDesk

/-- The restrictions of a query. -/
structure OrderQuery where
  statuses : Option (List String) := none
  sides : Option (List String) := none
  types : Option (List String) := none
  /-- Manual orders only, or the others only. -/
  isManual : Option Bool := none
  /-- How many orders at most. -/
  limit : Option Int := none
  deriving DecidableEq, Repr

namespace OrderQuery

/-- A word passes a restriction. -/
def admits (words : Option (List String)) (word : String) : Bool :=
  match words with
  | none => true
  | some [] => true
  | some ws => ws.contains word

/-- An order passes the restrictions of a query. -/
def selects (q : OrderQuery) (o : Order) : Bool :=
  admits q.statuses o.status && admits q.sides o.side && admits q.types o.type
    && q.isManual.all (· == o.isManual)

/-- The first rows up to a limit. -/
def cut (limit : Option Int) (rows : List Order) : List Order :=
  match limit with
  | some n => if 0 < n then rows.take n.toNat else rows
  | none => rows

end OrderQuery

namespace Ledger

/-- Rows with the newest first; of two of the same time the later one in the ledger. -/
def newestFirst (rows : List Order) : List Order :=
  rows.reverse.mergeSort fun a b => !a.createdAt.before b.createdAt

/-- The orders of a user that a query asks for. -/
def query (l : Ledger) (user : String) (q : OrderQuery) : List Order :=
  OrderQuery.cut q.limit <| newestFirst <|
    l.rows.filter fun o => o.user == user && q.selects o

/-- The filled orders of a user on a base coin, in the order of their execution. -/
def filledFor (l : Ledger) (user coin : String) : List Order :=
  (l.rows.filter fun o =>
    o.user == user && o.baseCoin == some coin && o.status == OrderStatus.filled.name).mergeSort
    fun a b => !b.transactTime.before a.transactTime

/-- The open orders of a user are those with one of these statuses. -/
def openStatuses : List String := [OrderStatus.new.name, OrderStatus.partiallyFilled.name]

end Ledger

namespace Store

/-- **The orders of a user that a query asks for.** A limit beyond the store's range is
a fault. -/
def query (s : Store) (user : String) (q : OrderQuery) : Except Fault (List Order) :=
  if q.limit.any (Number.isOutside 63) then .error .beyondStore
  else .ok (s.ledger.query user q)

/-- The incidents, or those of one type. -/
def incidentsOf (s : Store) (type : Option String) : List Incident :=
  match type.filter (!·.isEmpty) with
  | some type => s.incidents.filter (·.type == type)
  | none => s.incidents

end Store

end OrderDesk

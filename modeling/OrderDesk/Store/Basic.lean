import OrderDesk.Store.Ledger

/-!
# The store

The store holds the ledger of orders, the incidents that operators have to look at, the
supply of identifiers and the clock. Everything that is written is written in a
transaction: when something in it fails, the rows are as they were before. Identifiers
that were used and readings that were taken are not given back.

The store can fail as a whole. Such failures are part of its state: a plan says which
of its operations fail, at which calls, and with which reason.
-/

namespace OrderDesk

/-- Something that operators have to look at. -/
structure Incident where
  id : String
  /-- What kind of incident it is. -/
  type : String
  /-- Whose order it is about. -/
  user : Option String
  symbol : Option String
  /-- The orders it is about. -/
  orderId : Option String
  severity : String
  /-- What happened, in at most five hundred characters. -/
  description : String
  /-- Everything that is known about it. -/
  metadata : Payload
  createdAt : Stamp

/-- An incident as it is reported. -/
structure IncidentReport where
  /-- What kind of incident it is. -/
  type : String
  severity : String
  description : String
  /-- Whose order it is about. -/
  user : Option String := none
  symbol : Option String := none
  /-- The orders it is about. -/
  orderId : Option String := none
  /-- Everything that is known about it. -/
  metadata : Payload := .null

/-- A planned failure of one operation of the store. -/
structure PlannedFailure where
  /-- What the operation fails with. -/
  reason : String
  /-- Only orders of these types count, when it is said. -/
  types : Option (List String) := none
  /-- Only these calls fail, when it is said; the first counting call has number one. -/
  calls : Option (List Nat) := none
  /-- How many calls have counted. -/
  counted : Nat := 0
  deriving DecidableEq, Repr

/-- The planned failures of the store. -/
structure FailurePlan where
  /-- Failures when an order is written. -/
  addOrder : Option PlannedFailure := none
  /-- Failures when a transaction is begun. -/
  transaction : Option PlannedFailure := none
  /-- Failures when an incident is written. -/
  createIncident : Option PlannedFailure := none
  /-- Failures when an order is linked to another one. -/
  linkOrder : Option PlannedFailure := none
  /-- Failures when a transaction is committed. -/
  commit : Option PlannedFailure := none
  deriving DecidableEq, Repr

/-- The store. -/
structure Store where
  ledger : Ledger := Ledger.empty
  incidents : List Incident := []
  /-- How many identifiers have been used. -/
  usedIds : Nat := 0
  /-- How often the clock has been read. -/
  readings : Nat := 0
  /-- What is planned to fail. -/
  plan : FailurePlan := {}

/-- An operation on the store that may fail. -/
abbrev StoreM := ExceptT Fault (StateM Store)

namespace PlannedFailure

/-- The call fails. -/
def strikes (f : PlannedFailure) : Bool :=
  match f.calls with
  | none => true
  | some calls => calls.contains (f.counted + 1)

/-- The failure after one more counting call. -/
def count (f : PlannedFailure) : PlannedFailure := { f with counted := f.counted + 1 }

/-- Whether a call counts, by the type of the order it is about. -/
def concerns (f : PlannedFailure) (type : Option String) : Bool :=
  match f.types with
  | none => true
  | some types => type.any types.contains

end PlannedFailure

namespace Store

/-- A call that is about to be made: the reason why it fails, if it does, and the plan
after it. -/
def meet (f : Option PlannedFailure) (type : Option String) :
    Option String × Option PlannedFailure :=
  match f with
  | none => (none, none)
  | some f =>
    if f.concerns type then (if f.strikes then some f.reason else none, some f.count)
    else (none, some f)

/-- A fresh identifier. -/
def newId : StoreM String := fun s =>
  (.ok ("id-" ++ Number.digitsText (s.usedIds + 1)), { s with usedIds := s.usedIds + 1 })

/-- An identifier that may be given, else a fresh one. -/
def idOr (id : Option String) : StoreM String :=
  match id with
  | some id => pure id
  | none => newId

/-- The time. -/
def now : StoreM Stamp := fun s =>
  (.ok (Stamp.tick (s.readings + 1)), { s with readings := s.readings + 1 })

/-- A time that may be given, else the time of the clock. -/
def timeOr (t : Option Stamp) : StoreM Stamp :=
  match t with
  | some t => pure t
  | none => now

/-- An operation fails with a planned reason, if there is one. -/
def orFail (reason : Option String) : Except Fault Unit :=
  match reason with
  | some reason => .error (.outage reason)
  | none => .ok ()

/-- A transaction is begun, unless the plan lets it fail. -/
def beginTransaction : StoreM Unit := fun s =>
  let met := meet s.plan.transaction none
  (orFail met.1, { s with plan := { s.plan with transaction := met.2 } })

/-- An order is about to be written, unless the plan lets it fail. -/
def meetOrder (type : Option String) : StoreM Unit := fun s =>
  let met := meet s.plan.addOrder type
  (orFail met.1, { s with plan := { s.plan with addOrder := met.2 } })

/-- An incident is about to be written, unless the plan lets it fail. -/
def meetIncident : StoreM Unit := fun s =>
  let met := meet s.plan.createIncident none
  (orFail met.1, { s with plan := { s.plan with createIncident := met.2 } })

/-- An order is about to be linked, unless the plan lets it fail. -/
def meetLink : StoreM Unit := fun s =>
  let met := meet s.plan.linkOrder none
  (orFail met.1, { s with plan := { s.plan with linkOrder := met.2 } })

/-- A transaction is about to be committed, unless the plan lets it fail. -/
def meetCommit : StoreM Unit := fun s =>
  let met := meet s.plan.commit none
  (orFail met.1, { s with plan := { s.plan with commit := met.2 } })

/-- What a transaction does, up to its commit. -/
def committed {α : Type} (body : StoreM α) : StoreM α := do
  let a ← body
  meetCommit
  return a

/-- Rows as they were before, everything else as it is. -/
def restore (before after : Store) : Store :=
  { after with ledger := before.ledger, incidents := before.incidents }

/-- All or nothing: when the body or its commit fails, the rows are as they were. -/
def atomically {α : Type} (body : StoreM α) : StoreM α := fun s =>
  match committed body s with
  | (.ok a, after) => (.ok a, after)
  | (.error e, after) => (.error e, restore s after)

/-- **A transaction.** -/
def transaction {α : Type} (body : StoreM α) : StoreM α := fun s =>
  match beginTransaction s with
  | (.ok _, begun) => atomically body begun
  | (.error e, begun) => (.error e, begun)

/-- The outcome of a reading. -/
def ofExcept {α : Type} (x : Except Fault α) : StoreM α := ExceptT.mk (pure x)

/-- The row of a ticket is put into the ledger. -/
def insertRow (t : Ticket) (o : Order) : StoreM Filed := fun s =>
  match s.ledger.insert? o with
  | some l => (.ok ⟨o, t⟩, { s with ledger := l })
  | none => (.error (Objection.taken.fault t), s)

/-- **An order is written** under its identifier, or under a fresh one when it has
none. -/
def addOrder (t : Ticket) : StoreM Filed := do
  meetOrder t.type
  let id ← idOr t.id
  let transactTime ← timeOr t.transactTime
  let createdAt ← timeOr t.createdAt
  let updatedAt ← timeOr t.updatedAt
  let row ← ofExcept (t.row id transactTime createdAt updatedAt)
  insertRow (t.settle id transactTime createdAt updatedAt) row

/-- A row with another link. -/
def withLink (link : String) (time : Stamp) (o : Order) : Order :=
  { o with link := some link, updatedAt := time }

/-- An order is linked to another one; the answer is when. -/
def linkTo (id other : String) : StoreM Stamp := do
  meetLink
  let time ← now
  modify fun s => { s with ledger := s.ledger.update id (withLink other time) }
  return time

/-- A row with another status and, when it is given, another filled amount. -/
def withStatus (status : String) (executed : Option Float) (time : Stamp) (o : Order) : Order :=
  { o with
    status := status
    executed := match executed with
      | some x => Ticket.keptNumber (some (Arith.cap x o.quantity))
      | none => o.executed
    updatedAt := time }

/-- The ticket of a row with another status and, when it is given, another filled
amount, which is never more than the quantity. -/
def ticketWithStatus (status : String) (executed : Option Float) (time : Stamp) (o : Order) :
    Ticket :=
  { o.ticket with
    status := some status
    executed := match executed with
      | some x => some (Arith.cap x o.quantity)
      | none => o.executed
    updatedAt := some time }

/-- The status of a row is set inside a transaction. -/
def setRow (o : Order) (status : String) (executed : Option Float) : StoreM Ticket := fun s =>
  let time := Stamp.tick (s.readings + 1)
  (.ok (ticketWithStatus status executed time o),
    { s with
      readings := s.readings + 1
      ledger := s.ledger.update o.id (withStatus status executed time) })

/-- The status of an order is set inside a transaction; none when there is no such
order. -/
def setStatus (id status : String) (executed : Option Float) : StoreM (Option Ticket) := fun s =>
  match s.ledger.find? id with
  | none => (.ok none, s)
  | some o => (do return some (← setRow o status executed) : StoreM (Option Ticket)) s

/-- **The status of an order is set**, in a transaction of its own. -/
def updateStatus (id status : String) (executed : Option Float) : StoreM (Option Ticket) :=
  transaction (setStatus id status executed)

/-- The status of a row that was just read is set, in a transaction of its own. -/
def updateRow (o : Order) (status : String) (executed : Option Float) : StoreM Ticket :=
  transaction (setRow o status executed)

/-- The longest description of an incident. -/
def descriptionLimit : Nat := 500

/-- The incident that a report becomes. -/
def filed (r : IncidentReport) (id : String) (createdAt : Stamp) : Incident where
  id := id
  type := r.type
  user := r.user
  symbol := r.symbol
  orderId := r.orderId
  severity := r.severity
  description := String.ofList (r.description.toList.take descriptionLimit)
  metadata := r.metadata
  createdAt := createdAt

/-- An incident is written inside a transaction. -/
def putIncident (r : IncidentReport) : StoreM Incident := do
  let id ← newId
  let createdAt ← now
  let incident := filed r id createdAt
  modify fun s => { s with incidents := s.incidents ++ [incident] }
  return incident

/-- **An incident is written**, in a transaction of its own. -/
def createIncident (r : IncidentReport) : StoreM Incident := do
  meetIncident
  transaction (putIncident r)

/-- **Several orders are written** in one transaction. -/
def addAll (ts : List Ticket) : StoreM (List Filed) := transaction (ts.mapM addOrder)

/-- Several orders are written in one transaction that fails in the end. -/
def addAllAndFail (ts : List Ticket) (reason : String) : StoreM Unit :=
  transaction do
    let _ ← ts.mapM addOrder
    throw (.outage reason)

end Store

end OrderDesk

import OrderDesk.Catalog.Coins
import OrderDesk.Settings
import OrderDesk.Store.Query
import OrderDesk.Validation
import OrderDesk.Venue.Floor

/-!
# The desk

The desk sits between users, venues and the store. Its state has three parts that most
operations touch only one at a time: the *reference* (coins, credentials, settings),
which no operation on orders changes; the *floor*, with the venues and everything that
was said to them; and the *store*, with everything that was written down. An operation
that only reads venues is an operation on the floor, so that it leaves the store alone
by its type.

An operation that fails leaves the state as it was at the point of failure: what has
been said to a venue has been said.
-/

namespace OrderDesk

/-- What operations look things up in. -/
structure Reference where
  coins : Coins := {}
  credentials : Credentials := {}
  settings : Settings := {}

/-- The state of the desk. -/
structure Desk where
  /-- What operations look things up in. -/
  reference : Reference := {}
  /-- The venues and everything that was said to them. -/
  floor : Floor := {}
  /-- Everything that was written down. -/
  store : Store := {}
  /-- How many identifiers were made up for callers. -/
  clientIds : Nat := 0

/-- An operation of the desk that may fail. -/
abbrev DeskM := ExceptT Failure (StateM Desk)

namespace Desk

/-- An operation on the floor, as one of the desk. -/
def onFloor {α : Type} (x : StateM Floor α) : StateM Desk α := fun d =>
  let (a, floor) := x d.floor
  (a, { d with floor := floor })

/-- An operation on the floor that may fail, as one of the desk. -/
def runFloor {α : Type} (x : FloorM α) : DeskM α := ExceptT.mk (onFloor x.run)

/-- An operation on the store, as one of the desk, with its outcome. -/
def tryStore {α : Type} (x : StoreM α) : StateM Desk (Except Fault α) := fun d =>
  let (a, store) := x.run d.store
  (a, { d with store := store })

/-- An operation on the store whose fault is the failure of the operation. -/
def runStore {α : Type} (x : StoreM α) : DeskM α :=
  ExceptT.mk do return (← tryStore x).mapError .fault

/-- The outcome of an operation, without failing for it. -/
def attempt {α : Type} (x : DeskM α) : DeskM (Except Failure α) := ExceptT.lift x.run

/-- The outcome of a check. -/
def check {α : Type} (x : Except Failure α) : DeskM α := ExceptT.mk (pure x)

/-- A notice is given. -/
def notify (n : Notice) : StateM Desk Unit := onFloor (modify (·.notify n))

/-- An identifier is made up for a caller who gave none. -/
def newClientId : StateM Desk String := do
  modify fun d => { d with clientIds := d.clientIds + 1 }
  return "cid-" ++ Number.digitsText (← get).clientIds

/-- The identifier that a caller gave, else a made-up one. -/
def clientIdOr (given : Option String) : StateM Desk String :=
  match given.filter (!·.isEmpty) with
  | some id => return id
  | none => newClientId

end Desk

end OrderDesk

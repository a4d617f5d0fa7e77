import OrderDesk.Desk.Context
import OrderDesk.Store.Effect

/-!
# Cancellation

An order is canceled at its venue first and in the store second. Only an order that is
open can be canceled, and not when the venue answers that it has been filled.

A canceled order may be linked to another one, which is then canceled too, and so on
along the links. Each step closes an open order, so the walk ends however the links run;
a step that fails ends it with a notice and takes nothing back.
-/

namespace OrderDesk

namespace Ledger

/-- The order of a user that is to be canceled, when it can be. -/
def cancelable (l : Ledger) (user id : String) : Except Failure Order :=
  match l.findOwned? user id with
  | none => .error (.missing s!"Order {id} not found")
  | some o =>
    match OrderStatus.read o.status with
    | .error e => .error (.fault e)
    | .ok .filled => .error (.refused .alreadyFilled)
    | .ok s => if s.isCancelable then .ok o else .error (.refused (.notCancelable s))

/-- An order that can be canceled is in the ledger, and it is open. -/
theorem isOpen_of_cancelable {l : Ledger} {user id : String} {o : Order}
    (h : l.cancelable user id = .ok o) : l.find? id = some o ∧ o.user = user ∧ o.isOpen = true := by
  unfold cancelable at h
  split at h
  · cases h
  · rename_i found owned
    simp only [findOwned?, Option.filter_eq_some_iff, beq_iff_eq] at owned
    unfold OrderStatus.read at h
    unfold Order.isOpen
    cases named : (Vocabulary.ofName? found.status : Option OrderStatus) with
    | none => simp only [named] at h; cases h
    | some s =>
      simp only [named] at h
      cases s <;> simp only [OrderStatus.isCancelable, Bool.false_eq_true, ↓reduceIte] at h <;>
        cases h <;> exact ⟨owned.1, owned.2, by rw [named]; rfl⟩

end Ledger

namespace Floor

/-- A venue answers a cancel with the word of an order that has been filled. -/
def readsFilled (word : Payload) : Except Fault Bool :=
  if word.isPresent then
    match word with
    | .text s => .ok (OrderStatus.filledWords.contains (Text.lower s))
    | p => .error (.unfit p.kind .lowering)
  else .ok false

/-- **An order is canceled at its venue.** -/
def cancelAtVenue (ref : Reference) (user : String) (o : Order) : FloorM Unit := do
  let connection ← connectAs ref user o.venue
  match ← tryLine connection.slug user (Line.cancel o.venueOrderId o.symbol) with
  | .error e => throw (.venue "cancel order" e.message)
  | .ok none => return
  | .ok (some ack) =>
    let filled ← check ((readsFilled ack.status).mapError .fault)
    check (Market.refuseIf filled .filledOnVenue)

end Floor

namespace Desk

/-- A canceled order, and the order that it is linked to. -/
structure Retired where
  ticket : Ticket
  /-- The order that is to be canceled with it. -/
  linked : Option String

/-- One order of a user is canceled, at its venue and in the store. -/
def cancelOne (user id : String) (d : Desk) : Except Failure Retired × Desk :=
  match d.store.ledger.cancelable user id with
  | .error e => (.error e, d)
  | .ok o =>
    match (Floor.cancelAtVenue d.reference user o).run d.floor with
    | (.error e, floor) => (.error e, { d with floor := floor })
    | (.ok _, floor) =>
      match Store.updateRow o OrderStatus.canceled.name none d.store with
      | (.error e, store) => (.error (.fault e), { d with floor := floor, store := store })
      | (.ok ticket, store) =>
        (.ok ⟨ticket, o.link.filter (!·.isEmpty)⟩, { d with floor := floor, store := store })

/-- **A cancel closes an order**: there are fewer open orders after it. -/
theorem openCount_cancelOne {user id : String} {d d' : Desk} {r : Retired}
    (h : cancelOne user id d = (.ok r, d')) :
    d'.store.ledger.openCount < d.store.ledger.openCount := by
  unfold cancelOne at h
  split at h
  · cases h
  · rename_i o can
    obtain ⟨found, -, wasOpen⟩ := Ledger.isOpen_of_cancelable can
    split at h
    · cases h
    · split at h
      · cases h
      · rename_i ticket store updated
        cases h
        obtain ⟨time, ledger, -⟩ := Store.ledger_updateRow updated
        dsimp only
        rw [ledger]
        refine Ledger.openCount_update_lt (Ledger.mem_of_find? found) wasOpen ?_ ?_
        · intro row stillOpen
          unfold Ledger.changed at stillOpen
          split at stillOpen
          · cases stillOpen
          · exact stillOpen
        · simp only [Ledger.changed, beq_self_eq_true, ↓reduceIte]
          rfl

/-- The walk along the links gives a notice and ends. -/
def endCascade (linked : String) (e : Failure) (d : Desk) : Desk :=
  { d with floor := d.floor.notify (.cascadeFailed linked e.message) }

set_option linter.unusedVariables false in
/-- **A linked order is canceled**, and what is linked to it in turn. An order that is
not there, belongs to somebody else or is not open ends the walk in silence; a failure
ends it with a notice. -/
def cascade (user linked : String) (d : Desk) : Option Ticket × Desk :=
  match d.store.ledger.findOwned? user linked with
  | none => (none, d)
  | some o =>
    match OrderStatus.read o.status with
    | .error e => (none, endCascade linked (.fault e) d)
    | .ok status =>
      if !status.isCancelable then (none, d)
      else
        match h : cancelOne user o.id d with
        | (.error e, d') => (none, endCascade linked e d')
        | (.ok ⟨ticket, none⟩, d') => (some ticket, d')
        | (.ok ⟨ticket, some next⟩, d') => (some ticket, (cascade user next d').2)
termination_by d.store.ledger.openCount
decreasing_by exact openCount_cancelOne h

/-- **An order is canceled**, and after it the orders that it is linked to. -/
def cancelOrder (user id : String) : DeskM Ticket := fun d =>
  match cancelOne user id d with
  | (.error e, d) => (.error e, d)
  | (.ok ⟨ticket, none⟩, d) => (.ok ticket, d)
  | (.ok ⟨ticket, some linked⟩, d) => (.ok ticket, (cascade user linked d).2)

/-- An order was filled, so the order that it is linked to is canceled. -/
def handleFill (user id : String) : DeskM (Option Ticket) := fun d =>
  match d.store.ledger.findOwned? user id with
  | none => (.error (.missing s!"Order {id} not found"), d)
  | some o =>
    match o.link.filter (!·.isEmpty) with
    | none => (.ok none, d)
    | some linked =>
      let (ticket, d) := cascade user linked d
      (.ok ticket, d)

end Desk

end OrderDesk

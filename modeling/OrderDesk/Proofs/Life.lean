import OrderDesk.Desk.Cancellation
import OrderDesk.Desk.Preview
import OrderDesk.Proofs.Canceling
import OrderDesk.Proofs.Placements

/-!
# The life of a desk

A desk lives through events: orders are placed, canceled and filled, previews are asked
for, rows are written and statuses are set from outside, transactions fail and are rolled
back. Between any two events the surroundings may change in any way: what the venues will
answer, which operations of the store will fail, what is in the catalogue.

Links between orders are written in two places and by two mechanisms, each of which can
break off in the middle. That every link is answered in every state that a desk can come to
is shown here event by event: each event either adds rows that answer their own links, or
changes rows without touching identifiers, links and books, or leaves the ledger alone.
-/

namespace OrderDesk

/-- **Links are kept answered** by what leads from one ledger to another. -/
def KeepsLinks (l l' : Ledger) : Prop := LinksAnswered l.rows → LinksAnswered l'.rows

instance : IsPreorder Ledger KeepsLinks where
  refl _ h := h
  trans _ _ _ h k answered := k (h answered)

/-! ## The store -/

namespace Store

/-- An operation on the store that keeps links answered. -/
abbrev LinksKept (s t : Store) : Prop := KeepsLinks s.ledger t.ledger

instance : IsPreorder Store LinksKept where
  refl s := refl_of KeepsLinks s.ledger
  trans _ _ _ h k := trans_of KeepsLinks h k

theorem Idles.linksKept {s t : Store} (h : Idles s t) : LinksKept s t := by
  show KeepsLinks s.ledger t.ledger
  rw [h.ledger]
  exact refl_of KeepsLinks s.ledger

/-- Rows that answer their own links can be written. -/
theorem Wrote.linksKept {s t : Store} {rows : List Order} {incidents : List Incident}
    (h : Wrote s t rows incidents) (links : LinksAnswered rows) : LinksKept s t := by
  intro answered
  rw [h.rows]
  exact answered.append links

/-- A transaction keeps links answered when its body does. -/
theorem linksKept_transaction {α : Type} {body : StoreM α} (spares : Keeps Spares body.run)
    (kept : Keeps LinksKept body.run) : Keeps LinksKept (transaction body).run := by
  intro s
  rcases ran : transaction body s with ⟨r, t⟩
  show LinksKept s (transaction body s).2
  rw [ran]
  rcases transaction_cases spares ran with ⟨e, rfl, idle⟩ | ⟨a, begun, middle, rfl, i, did, j⟩
  · exact idle.linksKept
  · have inside : LinksKept begun (body begun).2 := kept begun
    rw [did] at inside
    exact trans_of LinksKept (trans_of LinksKept i.linksKept inside) j.linksKept

/-- A row whose status changes stays where it is. -/
theorem linksKept_setRow (o : Order) (status : String) (executed : Option Float) :
    Keeps LinksKept (setRow o status executed).run := by
  intro s answered
  refine answered.map (Ledger.id_changed o.id _) ?_ ?_
  · intro o
    unfold Ledger.changed
    split <;> rfl
  · intro o
    unfold Ledger.changed
    split <;> exact ⟨rfl, rfl, rfl, rfl, rfl⟩

/-- **Setting the status of a row** keeps links answered. -/
theorem linksKept_updateRow (o : Order) (status : String) (executed : Option Float) :
    Keeps LinksKept (updateRow o status executed).run :=
  linksKept_transaction (spares_setRow o status executed) (linksKept_setRow o status executed)

/-- **Setting a status** keeps links answered. -/
theorem linksKept_updateStatus (id status : String) (executed : Option Float) :
    Keeps LinksKept (updateStatus id status executed).run := by
  refine linksKept_transaction (spares_setStatus id status executed) fun s => ?_
  show LinksKept s (setStatus id status executed s).2
  unfold setStatus
  cases s.ledger.find? id with
  | none => exact refl_of LinksKept s
  | some o => exact linksKept_setRow o status executed s

end Store

/-! ## The desk -/

namespace Desk

/-- An operation of the desk that keeps links answered. -/
abbrev LinksKept (d d' : Desk) : Prop := KeepsLinks d.store.ledger d'.store.ledger

instance : IsPreorder Desk LinksKept where
  refl d := refl_of KeepsLinks d.store.ledger
  trans _ _ _ h k := trans_of KeepsLinks h k

/-- **Canceling one order** keeps links answered. -/
theorem linksKept_cancelOne (user id : String) (d : Desk) :
    LinksKept d (cancelOne user id d).2 := by
  unfold cancelOne
  cases d.store.ledger.cancelable user id with
  | error e => exact refl_of KeepsLinks d.store.ledger
  | ok o =>
    dsimp only
    rcases (Floor.cancelAtVenue d.reference user o).run d.floor with ⟨e | _, floor⟩
    · exact refl_of KeepsLinks d.store.ledger
    · have kept : Store.LinksKept d.store
          (Store.updateRow o OrderStatus.canceled.name none d.store).2 :=
        Store.linksKept_updateRow _ _ _ d.store
      dsimp only
      rcases ran : Store.updateRow o OrderStatus.canceled.name none d.store with
        ⟨e | ticket, store⟩ <;> rw [ran] at kept <;> exact kept

/-- **Canceling an order**, and along its links, keeps links answered. -/
theorem linksKept_cancelOrder (user id : String) (d : Desk) :
    LinksKept d (cancelOrder user id d).2 :=
  keeps_cancelOrder (linksKept_cancelOne user) (fun _ d => refl_of KeepsLinks d.store.ledger) id d

/-- **A fill** keeps links answered. -/
theorem linksKept_handleFill (user id : String) (d : Desk) :
    LinksKept d (handleFill user id d).2 :=
  keeps_handleFill (linksKept_cancelOne user) (fun _ d => refl_of KeepsLinks d.store.ledger) id d

/-- **A placement** keeps links answered. -/
theorem linksKept_run (p : Placement) (d : Desk) : LinksKept d (p.run d).2 := by
  obtain ⟨t, leaves, trail⟩ := p.leaves_run d
  exact leaves.wrote.linksKept trail.links

end Desk

/-! ## Events -/

/-- **An event** in the life of a desk. -/
inductive Event where
  /-- An order, or several that belong together, is placed. -/
  | place (p : Placement)
  | cancel (user id : String)
  | fill (user id : String)
  /-- The preview of an order that a strategy would place. -/
  | preview (r : OrderRequest) (user : String)
  /-- The preview of an order that would be placed by hand. -/
  | previewManual (r : OrderRequest) (user : String)
  | setStatus (id status : String) (executed : Option Float)
  /-- Rows without links are written in one transaction. -/
  | seed (tickets : List { t : Ticket // t.link = none })
  /-- A transaction, whatever it does, fails in the end. -/
  | rollBack (body : StoreM Unit) (reason : String)
  /-- The surroundings change: the catalogue, the venues and what they will answer, and
  what is planned to fail. -/
  | change (reference : Reference) (floor : Floor) (plan : FailurePlan)

namespace Event

/-- What an event does to the desk. -/
def apply (d : Desk) : Event → Desk
  | place p => (p.run d).2
  | cancel user id => (Desk.cancelOrder user id d).2
  | fill user id => (Desk.handleFill user id d).2
  | preview r user => (Desk.runFloor (Floor.preview d.reference r user) d).2
  | previewManual r user => (Desk.runFloor (Floor.previewManual d.reference r user) d).2
  | setStatus id status executed =>
    (Desk.runStore (Store.updateStatus id status executed) d).2
  | seed tickets => (Desk.runStore (Store.addAll (tickets.map (·.val))) d).2
  | rollBack body reason =>
    (Desk.runStore (Store.transaction do body; throw (.outage reason) : StoreM Unit) d).2
  | change reference floor plan =>
    { d with reference := reference, floor := floor, store := { d.store with plan := plan } }

/-- Rows without links are written or not. -/
theorem linksKept_addAll {tickets : List Ticket} (unlinked : ∀ t ∈ tickets, t.link = none) :
    Keeps Store.LinksKept (Store.addAll tickets).run := by
  refine Store.linksKept_transaction (.each fun t _ => Store.spares_addOrder t)
    (.each fun t mem s => ?_)
  show Store.LinksKept s (Store.addOrder t s).2
  rcases ran : Store.addOrder t s with ⟨r, s'⟩
  rcases Store.addOrder_cases ran with ⟨e, rfl, idle⟩ | ⟨filed, rfl, wrote, made, -⟩
  · exact idle.linksKept
  · refine wrote.linksKept (.of_unlinked fun row only => ?_)
    obtain rfl := List.mem_singleton.mp only
    exact made.link.symm.trans (unlinked t mem)

/-- A transaction that fails in the end leaves the ledger as it was. -/
theorem ledger_rollBack (body : StoreM Unit) (reason : String) (s : Store) :
    (Store.transaction (do body; throw (.outage reason) : StoreM Unit) s).2.ledger
      = s.ledger := by
  unfold Store.transaction
  -- what the body did does not matter, since its ledger is thrown away with the failure
  rcases started : Store.beginTransaction s with ⟨e | _, begun⟩
  · show begun.ledger = s.ledger
    rw [← Store.ledger_beginTransaction s, started]
  · have same : begun.ledger = s.ledger := by
      rw [← Store.ledger_beginTransaction s, started]
    show (Store.atomically _ begun).2.ledger = s.ledger
    rw [← same]
    unfold Store.atomically Store.committed
    rw [Run.bind_apply, Run.bind_apply]
    rcases body begun with ⟨e | _, after⟩ <;> rfl

/-- **One event** keeps links answered. -/
theorem linksKept_apply (e : Event) (d : Desk) : Desk.LinksKept d (e.apply d) := by
  cases e with
  | place p => exact Desk.linksKept_run p d
  | cancel user id => exact Desk.linksKept_cancelOrder user id d
  | fill user id => exact Desk.linksKept_handleFill user id d
  | preview r user => exact refl_of KeepsLinks d.store.ledger
  | previewManual r user => exact refl_of KeepsLinks d.store.ledger
  | setStatus id status executed =>
    exact Store.linksKept_updateStatus id status executed d.store
  | seed tickets =>
    refine linksKept_addAll (fun t mem => ?_) d.store
    obtain ⟨t, -, rfl⟩ := List.mem_map.mp mem
    exact t.property
  | rollBack body reason =>
    show KeepsLinks d.store.ledger (Store.transaction _ d.store).2.ledger
    rw [ledger_rollBack]
    exact refl_of KeepsLinks d.store.ledger
  | change reference floor plan => exact refl_of KeepsLinks d.store.ledger

end Event

namespace Desk

/-- **The desk after some events**, from an empty one on. -/
def life (events : List Event) : Desk := events.foldl Event.apply {}

/-- Events keep links answered. -/
theorem linksKept_foldl (events : List Event) (d : Desk) :
    LinksKept d (events.foldl Event.apply d) := by
  -- from any desk on, since every event moves the beginning of the rest
  induction events generalizing d with
  | nil => exact refl_of KeepsLinks d.store.ledger
  | cons e rest ih => exact trans_of KeepsLinks (e.linksKept_apply d) (ih (e.apply d))

/-- **Links pair orders one to one** in every state that a desk can come to: the order that
another one is linked to is there, it is a different one and linked back, both are on one
side of one book of one user, and no order is the sibling of two. -/
theorem links_pair_orders (events : List Event) :
    LinksAnswered (life events).store.ledger.rows
    ∧ ∀ x ∈ (life events).store.ledger.rows, ∀ x' ∈ (life events).store.ledger.rows,
        ∀ id, x.link = some id → x'.link = some id → x = x' := by
  have answered : LinksAnswered (life events).store.ledger.rows :=
    linksKept_foldl events {} .nil
  refine ⟨answered, fun x mem x' mem' id linked linked' => ?_⟩
  exact Ledger.eq_of_link_eq answered mem mem' linked linked'

end Desk

end OrderDesk

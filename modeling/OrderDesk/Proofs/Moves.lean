import Mathlib.Logic.Relation
import OrderDesk.Desk.Operation
import OrderDesk.Proofs.Canceling
import OrderDesk.Proofs.Placements

/-!
# What an operation does to the ledger

There are only two things that a user can do to the ledger of orders: write rows after all
that are there, and close an open one. In both cases the rows are the user's own. Every
operation is a sequence of such steps, however it ends, so that what holds of the two steps
holds of every operation.
-/

namespace OrderDesk

namespace Ledger

/-- **One step of a user.** -/
inductive Step (user : String) (l : Ledger) : Ledger → Prop where
  /-- Rows of the user are written after all others. -/
  | written {l' : Ledger} {rows : List Order} (after : l'.rows = l.rows ++ rows)
      (owned : ∀ row ∈ rows, row.user = user) : Step user l l'
  /-- An open order of the user is canceled. -/
  | closed {id : String} {o : Order} (has : l.HasOpen user id o) (time : Stamp) :
      Step user l (l.close id time)

/-- **Several steps of a user**, one after the other. -/
def Moves (user : String) : Ledger → Ledger → Prop := Relation.ReflTransGen (Step user)

instance (user : String) : IsPreorder Ledger (Moves user) where
  refl _ := .refl
  trans _ _ _ := .trans

/-- **What every step keeps, every sequence of steps keeps.** -/
theorem Moves.keeps {user : String} {R : Ledger → Ledger → Prop} [IsPreorder Ledger R]
    (step : ∀ {l l'}, Step user l l' → R l l') {l l' : Ledger} (h : Moves user l l') :
    R l l' := by
  induction h with
  | refl => exact refl_of R l
  | tail _ last ih => exact trans_of R ih (step last)

end Ledger

namespace Desk

/-- What a user did to the ledger between two states of the desk. -/
abbrev Moves (user : String) (d d' : Desk) : Prop :=
  d.store.ledger.Moves user d'.store.ledger

instance (user : String) : IsPreorder Desk (Moves user) where
  refl d := refl_of (Ledger.Moves user) d.store.ledger
  trans _ _ _ h k := trans_of (Ledger.Moves user) h k

variable {user : String} {d d' : Desk}

/-- An unchanged ledger. -/
theorem moves_of_eq (same : d'.store.ledger = d.store.ledger) : Moves user d d' := by
  show d.store.ledger.Moves user d'.store.ledger
  rw [same]
  exact refl_of (Ledger.Moves user) d.store.ledger

/-- **The cancel of one order** is one step or none. -/
theorem moves_cancelOne (user id : String) (d : Desk) : Moves user d (cancelOne user id d).2 := by
  have ends := cancelsOne user id d
  generalize (cancelOne user id d).1 = r at ends
  generalize (cancelOne user id d).2 = d' at ends
  cases ends with
  | unasked stuck reads => exact moves_of_eq rfl
  | refused has said idle => exact moves_of_eq idle.ledger
  | @closed o time f s has said ledger incidents =>
    show d.store.ledger.Moves user s.ledger
    rw [ledger]
    exact .single (.closed has time)

/-- A cancel, and those along the links. -/
theorem moves_cancelOrder (user id : String) (d : Desk) :
    Moves user d (cancelOrder user id d).2 :=
  keeps_cancelOrder (moves_cancelOne user) (fun _ _ => moves_of_eq rfl) id d

/-- The cancels along the links, when an order was filled. -/
theorem moves_handleFill (user id : String) (d : Desk) :
    Moves user d (handleFill user id d).2 :=
  keeps_handleFill (moves_cancelOne user) (fun _ _ => moves_of_eq rfl) id d

/-- **A placement** writes rows. -/
theorem moves_placement (p : Placement) (d : Desk) : Moves p.user d (p.run d).2 := by
  obtain ⟨t, leaves, -, owned⟩ := p.leaves_run_owned d
  exact .single (.written leaves.wrote.rows owned)

/-- What happens on the floor does not touch the ledger. -/
theorem keeps_moves_runFloor {α : Type} (x : FloorM α) : Keeps (Moves user) (runFloor x).run :=
  fun _ => moves_of_eq rfl

/-- **Every operation of a user** is a sequence of steps of the user. -/
theorem moves_run (op : Operation) (user : String) : Keeps (Moves user) (op.run user).run := by
  cases op with
  | place r => exact .seq (moves_placement (.byStrategy r user)) fun _ => .answer _
  | placeByHand r => exact .seq (moves_placement (.byHand r user)) fun _ => .answer _
  | cancel id => exact .seq (moves_cancelOrder user id) fun _ => .answer _
  | fill id => exact .seq (moves_handleFill user id) fun _ => .answer _
  | preview r => exact .seq .look fun _ => .seq (keeps_moves_runFloor _) fun _ => .answer _
  | previewByHand r => exact .seq .look fun _ => .seq (keeps_moves_runFloor _) fun _ => .answer _
  | order id => exact fun _ => moves_of_eq rfl
  | orders f => exact fun _ => moves_of_eq rfl
  | openOrders => exact fun _ => moves_of_eq rfl
  | holdings coin => exact fun _ => moves_of_eq rfl

end Desk

end OrderDesk

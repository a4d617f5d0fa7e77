import OrderDesk.Proofs.Canceling
import OrderDesk.Proofs.Respects

/-!
# Following links in two runs

A walk along the links looks an order up, cancels it and goes on, and gives a notice where
it has to end early. So whatever two desks are alike in, the walk is the same walk at both
when the same orders are found, when notices keep the desks alike, and when one cancel does
the same at both. What follows is that whole cancels do, and so does an order that was
filled.
-/

namespace OrderDesk

namespace Desk

/-- **A likeness that cancels keep**: what a walk along the links of a user's orders goes by
is the same at two desks that are alike. -/
structure CancelsAlike (R : Desk → Desk → Prop) (user : String) : Prop where
  /-- The same orders are found. -/
  finds : ∀ d e, R d e → ∀ id,
    d.store.ledger.findOwned? user id = e.store.ledger.findOwned? user id
  notify : ∀ n, Respects R (notify n)
  cancelOne : ∀ id, Respects R (cancelOne user id : StateM Desk (Except Failure Retired))

namespace CancelsAlike

variable {R : Desk → Desk → Prop} {user : String}

/-- **The walk along the links** is the same walk at both desks. -/
theorem respects_cascade (h : CancelsAlike R user) (linked : String) :
    Respects R (cascade user linked : StateM Desk (Option Ticket)) := by
  intro d e alike
  show (cascade user linked d).1 = (cascade user linked e).1
    ∧ R (cascade user linked d).2 (cascade user linked e).2
  -- every cancel leaves fewer open orders at the first desk, and the next two desks alike
  induction count : d.store.ledger.openCount using Nat.strongRecOn
    generalizing linked d e with
  | _ n ih =>
    rw [cascade_eq user linked d, cascade_eq user linked e, ← h.finds d e alike]
    cases d.store.ledger.findOwned? user linked with
    | none => exact ⟨rfl, alike⟩
    | some o =>
      dsimp only
      cases OrderStatus.read o.status with
      | error unread => exact ⟨rfl, (h.notify _ d e alike).2⟩
      | ok status =>
        dsimp only
        split
        · exact ⟨rfl, alike⟩
        obtain ⟨r, d', e', first, second, alike'⟩ := (h.cancelOne o.id d e alike).ran
        rw [first, second]
        rcases r with failure | ⟨ticket, _ | next⟩
        · exact ⟨rfl, (h.notify _ d' e' alike').2⟩
        · exact ⟨rfl, alike'⟩
        · exact ⟨rfl, (ih _ (count ▸ openCount_cancelOne first) next d' e' alike' rfl).2⟩

/-- **A cancel**, with what is canceled after it. -/
theorem respects_cancelOrder (h : CancelsAlike R user) (id : String) :
    Respects R (cancelOrder user id).run := by
  intro d e alike
  obtain ⟨r, d', e', first, second, alike'⟩ := (h.cancelOne id d e alike).ran
  show (cancelOrder user id d).1 = (cancelOrder user id e).1
    ∧ R (cancelOrder user id d).2 (cancelOrder user id e).2
  unfold cancelOrder
  rw [first, second]
  rcases r with failure | ⟨ticket, _ | next⟩
  · exact ⟨rfl, alike'⟩
  · exact ⟨rfl, alike'⟩
  · exact ⟨rfl, (h.respects_cascade next d' e' alike').2⟩

/-- **An order that was filled**, with what is canceled for it. -/
theorem respects_handleFill (h : CancelsAlike R user) (id : String) :
    Respects R (handleFill user id).run := by
  intro d e alike
  show (handleFill user id d).1 = (handleFill user id e).1
    ∧ R (handleFill user id d).2 (handleFill user id e).2
  unfold handleFill
  rw [← h.finds d e alike]
  cases d.store.ledger.findOwned? user id with
  | none => exact ⟨rfl, alike⟩
  | some o =>
    dsimp only
    cases o.link.filter (!·.isEmpty) with
    | none => exact ⟨rfl, alike⟩
    | some next =>
      obtain ⟨same, alike'⟩ := h.respects_cascade next d e alike
      exact ⟨congrArg Except.ok same, alike'⟩

end CancelsAlike

end Desk

end OrderDesk

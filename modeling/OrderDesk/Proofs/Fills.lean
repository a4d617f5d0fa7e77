import OrderDesk.Proofs.Doubles
import OrderDesk.Proofs.Rows

/-!
# No order is filled beyond its quantity

Venues report how much of an order is filled as they please, and so does whoever sets a
status: more than the quantity, nothing at all, or what is no number. What is recorded is
capped by the quantity, once when the order is recorded and again whenever its status is
set. Between the two the store changes both numbers, since it keeps no NaN and no negative
zero; a cap outlasts this, since the two zeros compare alike and a quantity that is NaN is
not taken at all.
-/

namespace OrderDesk

open Number (comparison lt_iff)

/-! ## Numbers as the store keeps them -/

namespace Ticket

variable {x y v w : Float}

/-- What the store keeps is a number. -/
theorem isNaN_of_kept {x : Option Float} (h : keptNumber x = some v) : v.isNaN = false := by
  unfold keptNumber at h
  split at h
  case h_1 x =>
    split at h
    case isTrue => cases h
    case isFalse number =>
      cases h
      split
      · decide
      · exact Bool.eq_false_iff.mpr number
  case h_2 => cases h

/-- **A number compares as the store keeps it.** -/
theorem comparison_of_kept (h : keptNumber (some x) = some v) (z : Float) :
    comparison v z = comparison x z := by
  unfold keptNumber at h
  dsimp only at h
  split at h
  case isTrue => cases h
  case isFalse =>
    cases h
    split
    case isTrue zero => exact (Number.comparison_of_zero zero z).symm
    case isFalse => rfl

theorem kept_lt_iff (h : keptNumber (some x) = some v) (z : Float) : v < z ↔ x < z := by
  rw [lt_iff, lt_iff, comparison_of_kept h]

theorem lt_kept_iff (h : keptNumber (some x) = some v) (z : Float) : z < v ↔ z < x := by
  rw [lt_iff, lt_iff, Number.comparison_swap v, Number.comparison_swap x, comparison_of_kept h]

/-- A number that is not above another one is kept so. -/
theorem kept_le (hx : keptNumber (some x) = some v) (hy : keptNumber (some y) = some w)
    (h : ¬ y < x) : v ≤ w := by
  refine Number.le_of_not_lt (isNaN_of_kept hy) (isNaN_of_kept hx) ?_
  rwa [kept_lt_iff hy, lt_kept_iff hx]

/-- The numbers of a row that the store makes of a ticket. -/
theorem fill_of_toOrder {t : Ticket} {id : String} {transactTime createdAt updatedAt : Stamp}
    {o : Order} (h : t.toOrder id transactTime createdAt updatedAt = .ok o) :
    keptNumber t.quantity = some o.quantity
      ∧ o.executed = keptNumber (some (t.executed.getD 0.0)) := by
  obtain ⟨clientId, -, h⟩ := Run.ok_of_bind h
  obtain ⟨label, -, h⟩ := Run.ok_of_bind h
  obtain ⟨feeCurrency, -, h⟩ := Run.ok_of_bind h
  obtain ⟨venueOrderId, -, h⟩ := Run.ok_of_bind h
  obtain ⟨owner, -, h⟩ := Run.ok_of_bind h
  obtain ⟨slug, -, h⟩ := Run.ok_of_bind h
  obtain ⟨pair, -, h⟩ := Run.ok_of_bind h
  obtain ⟨word, -, h⟩ := Run.ok_of_bind h
  obtain ⟨kind, -, h⟩ := Run.ok_of_bind h
  obtain ⟨amount, quantity, h⟩ := Run.ok_of_bind h
  cases h
  exact ⟨of_filled quantity, rfl⟩

end Ticket

/-- What is capped is not above the limit, also when one of the two is NaN. -/
theorem Arith.not_lt_cap (x limit : Float) : ¬ limit < Arith.cap x limit := by
  unfold Arith.cap
  split
  · exact Number.not_lt_self limit
  · assumption

/-! ## Rows -/

/-- **An order is filled within its quantity**, which is a number. -/
structure Order.FilledWithin (o : Order) : Prop where
  quantity : o.quantity.isNaN = false
  executed : ∀ x, o.executed = some x → x ≤ o.quantity

namespace Order.FilledWithin

/-- The record of a leg, whatever the venue reports. -/
theorem of_record {t : Ticket} (is : t.IsRecord) {id : String}
    {transactTime createdAt updatedAt : Stamp} {o : Order}
    (h : t.toOrder id transactTime createdAt updatedAt = .ok o) : o.FilledWithin := by
  obtain ⟨ctx, leg, ack, marks, record, _, _, _, _, recorded, rfl⟩ := is
  obtain ⟨status, -, recorded⟩ := Run.ok_of_bind recorded
  cases recorded
  obtain ⟨quantity, executed⟩ := Ticket.fill_of_toOrder h
  refine ⟨Ticket.isNaN_of_kept quantity, fun x isExecuted => ?_⟩
  exact Ticket.kept_le (executed.symm.trans isExecuted) quantity (Arith.not_lt_cap _ _)

/-- The status is set, whatever is reported to be filled. -/
theorem withStatus {o : Order} (h : o.FilledWithin) (status : String)
    (executed : Option Float) (time : Stamp) :
    (Store.withStatus status executed time o).FilledWithin := by
  refine ⟨h.quantity, fun x isExecuted => ?_⟩
  cases executed with
  | none => exact h.executed x isExecuted
  | some reported =>
    have kept : Ticket.keptNumber (some (Arith.cap reported o.quantity)) = some x := isExecuted
    refine Number.le_of_not_lt h.quantity (Ticket.isNaN_of_kept kept) ?_
    rw [Ticket.lt_kept_iff kept]
    exact Arith.not_lt_cap reported o.quantity

/-- **Being filled within the quantity** is never taken from an order. -/
theorem isInvariant : Order.IsInvariant Order.FilledWithin where
  written is h := of_record is h
  linked _ _ h := ⟨h.quantity, h.executed⟩
  set status executed time h := h.withStatus status executed time

end Order.FilledWithin

namespace Desk

/-- **No order is over-filled.** On a desk that began without rows, whatever users ask for,
whatever venues answer and whatever status is set from outside, no order has more filled
than its quantity. -/
theorem never_overfilled (acts : List Act) (d : Desk) :
    ∀ o ∈ (({ d with store := {} } : Desk).after acts).store.ledger.rows,
      ∀ x, o.executed = some x → x ≤ o.quantity := by
  intro o mem
  have all := keepsRows_after Order.FilledWithin.isInvariant acts { d with store := {} }
  exact (all (fun _ none => nomatch none) o mem).executed

/-- A venue reports more than was asked for, and so does a status. -/
def overReports : List Act :=
  [.ask "u1" (.place oneCoin), .setStatus "id-1" "FILLED" (some 7.0)]

/-- The desk on which this happens. -/
def overReported : Desk := small [.accepted (.object [("filled", .real 5.0)])] {}

theorem never_overfilled_oneCoin :
    ∃ o ∈ (({ overReported with store := {} } : Desk).after overReports).store.ledger.rows,
      o.executed = some 1.0 ∧ 1.0 ≤ o.quantity := by
  have filled : ∃ o ∈ (({ overReported with store := {} } : Desk).after
      overReports).store.ledger.rows, o.executed = some 1.0 := by
    decide +kernel
  obtain ⟨o, mem, executed⟩ := filled
  exact ⟨o, mem, executed, never_overfilled overReports overReported o mem 1.0 executed⟩

end Desk

end OrderDesk

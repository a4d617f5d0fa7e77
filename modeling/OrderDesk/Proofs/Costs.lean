import Mathlib.Algebra.BigOperators.Group.List.Lemmas
import Mathlib.Algebra.Order.Field.Rat
import OrderDesk.Proofs.Aging
import OrderDesk.Proofs.Exact

/-!
# What orders cost once they are on record

The cost of an order, its average price and the amount filled of it are written together, and then
the cost stands for the amount filled at the average price. Setting a status can report another
amount. That replaces the amount filled and leaves the other two, so from then on the order is off
its basis: the cost is still that of the amount that was filled before. Everything else that can
happen to a row, a cancellation among it, leaves all three.

Holdings add up the costs of the buys that were filled beside the amounts filled. The one is the
value of the other exactly as long as those buys are on their basis.
-/

namespace OrderDesk

open Number (value?)

/-! ## Rows -/

namespace Order

/-- **A row is filled anew**, at most: of its amounts only the one that is filled changes, to one of
those that are reported and never above the quantity. -/
structure IsRefilled (reported : Float → Prop) (o o' : Order) : Prop where
  quantity : o'.quantity = o.quantity
  average : o'.average = o.average
  cost : o'.cost = o.cost
  executed : o'.executed = o.executed
    ∨ ∃ x, reported x ∧ o'.executed = Ticket.keptNumber (some (Arith.cap x o.quantity))

/-- The amount filled of an order, as a number. -/
def filled? (o : Order) : Option Rat := o.executed.bind value?

/-- The average price of an order, as a number. -/
def price? (o : Order) : Option Rat := o.average.bind value?

/-- The cost of an order, as a number. -/
def cost? (o : Order) : Option Rat := o.cost.bind value?

/-- **An order is on its basis**: it has an average price, and its cost is the amount filled at that
price. -/
def IsOnBasis (o : Order) : Prop :=
  ∃ filled price, o.filled? = some filled ∧ o.price? = some price ∧ o.cost? = some (filled * price)

variable {o o' o'' : Order} {reported reported' : Float → Prop}

theorem IsRefilled.refl (o : Order) : o.IsRefilled reported o := ⟨rfl, rfl, rfl, .inl rfl⟩

theorem IsRefilled.trans (h : o.IsRefilled reported o') (k : o'.IsRefilled reported o'') :
    o.IsRefilled reported o'' := by
  refine ⟨k.quantity.trans h.quantity, k.average.trans h.average, k.cost.trans h.cost, ?_⟩
  rcases k.executed with same | ⟨x, isReported, executed⟩
  · rw [same]
    exact h.executed
  · rw [h.quantity] at executed
    exact .inr ⟨x, isReported, executed⟩

/-- More may be reported. -/
theorem IsRefilled.mono (h : o.IsRefilled reported o') (more : ∀ x, reported x → reported' x) :
    o.IsRefilled reported' o' :=
  ⟨h.quantity, h.average, h.cost, h.executed.imp_right fun ⟨x, isReported, executed⟩ =>
    ⟨x, more x isReported, executed⟩⟩

/-- A row that ages is not filled anew. -/
theorem Ages.isRefilled (h : o.Ages o') : o.IsRefilled reported o' := by
  cases h with
  | same => exact .refl o
  | canceled => exact ⟨rfl, rfl, rfl, .inl rfl⟩

/-- **Setting a status** fills the row anew when an amount is reported with it. -/
theorem isRefilled_withStatus (status : String) (executed : Option Float) (time : Stamp)
    (o : Order) : o.IsRefilled (executed = some ·) (Store.withStatus status executed time o) := by
  cases executed with
  | none => exact ⟨rfl, rfl, rfl, .inl rfl⟩
  | some x => exact ⟨rfl, rfl, rfl, .inr ⟨x, rfl, rfl⟩⟩

/-- **An order stays on its basis** exactly when the amount filled is the same number, or when the
average price is zero. -/
theorem IsOnBasis.stays_iff (basis : o.IsOnBasis) (h : o.IsRefilled reported o') :
    o'.IsOnBasis ↔ o'.filled? = o.filled? ∨ o.price? = some 0 ∧ o'.filled?.isSome = true := by
  obtain ⟨filled, price, isFilled, isPrice, isCost⟩ := basis
  have samePrice : o'.price? = some price := by rw [price?, h.average]; exact isPrice
  have sameCost : o'.cost? = some (filled * price) := by rw [cost?, h.cost]; exact isCost
  constructor
  · rintro ⟨filled', price', isFilled', isPrice', isCost'⟩
    obtain rfl : price = price' := Option.some.inj (samePrice.symm.trans isPrice')
    have value : filled * price = filled' * price := Option.some.inj (sameCost.symm.trans isCost')
    by_cases free : price = 0
    · exact .inr ⟨isPrice.trans (congrArg some free), by rw [isFilled']; rfl⟩
    · rw [isFilled, isFilled', (IsUnit.mk0 price free).mul_right_cancel value]
      exact .inl rfl
  · rintro (same | ⟨free, isKnown⟩)
    · exact ⟨filled, price, same.trans isFilled, samePrice, sameCost⟩
    · obtain rfl : price = 0 := Option.some.inj (isPrice.symm.trans free)
      obtain ⟨filled', isFilled'⟩ := Option.isSome_iff_exists.mp isKnown
      refine ⟨filled', 0, isFilled', samePrice, sameCost.trans ?_⟩
      rw [mul_zero, mul_zero]

end Order

/-! ## Ledgers -/

namespace Ledger

/-- **The rows of a ledger are filled anew**, at most, as is reported of each. -/
def IsRefilled (reported : String → Float → Prop) (l l' : Ledger) : Prop :=
  ∀ id o, l.find? id = some o → ∃ o', l'.find? id = some o' ∧ o.IsRefilled (reported id) o'

variable {reported reported' : String → Float → Prop} {l l' : Ledger}

instance (reported : String → Float → Prop) : IsPreorder Ledger (IsRefilled reported) where
  refl _ _ o found := ⟨o, found, .refl o⟩
  trans _ _ _ h k id o found := by
    obtain ⟨o', found', first⟩ := h id o found
    obtain ⟨o'', found'', second⟩ := k id o' found'
    exact ⟨o'', found'', first.trans second⟩

theorem IsRefilled.mono (h : l.IsRefilled reported l')
    (more : ∀ id x, reported id x → reported' id x) : l.IsRefilled reported' l' := by
  intro id o found
  obtain ⟨o', found', refilled⟩ := h id o found
  exact ⟨o', found', refilled.mono (more id)⟩

/-- A ledger that ages without a status being set is not filled anew. -/
theorem Ages.isRefilled (h : l.Ages (fun _ => False) l') : l.IsRefilled reported l' := by
  intro id o found
  obtain ⟨o', found', aged | ⟨none, -⟩⟩ := h id o found
  · exact ⟨o', found', aged.isRefilled⟩
  · exact none.elim

/-- **Setting a status** fills one row anew. -/
theorem isRefilled_updateStatus (id status : String) (executed : Option Float) (s : Store) :
    s.ledger.IsRefilled (fun other x => id = other ∧ executed = some x)
      (Store.updateStatus id status executed s).2.ledger := by
  rcases ran : Store.updateStatus id status executed s with ⟨r, t⟩
  show s.ledger.IsRefilled _ t.ledger
  rcases Store.updateStatus_cases ran with
    ⟨e, -, idle⟩ | ⟨-, -, idle⟩ | ⟨o', time, found', -, ledger, -⟩
  · rw [idle.ledger]
    exact refl_of (IsRefilled _) s.ledger
  · rw [idle.ledger]
    exact refl_of (IsRefilled _) s.ledger
  · rw [ledger]
    intro other o found
    by_cases same : other = id
    · subst same
      exact ⟨_, find?_update_self found,
        (o.isRefilled_withStatus status executed time).mono fun x reported => ⟨rfl, reported⟩⟩
    · exact ⟨o, (find?_update_other same).trans found, .refl o⟩

end Ledger

/-! ## Acts -/

namespace Act

/-- The act reports how much of an order is filled. -/
def Reports (id : String) (x : Float) : Act → Prop
  | setStatus other _ executed => other = id ∧ executed = some x
  | _ => False

/-- **One act** fills rows anew as it reports. -/
theorem isRefilled_apply (a : Act) (d : Desk) :
    d.store.ledger.IsRefilled (fun id x => a.Reports id x) (a.apply d).store.ledger := by
  cases a with
  | ask user op =>
    have ages : d.store.ledger.Ages (fun _ => False) (apply d (.ask user op)).store.ledger :=
      (Desk.moves_run op user d).keeps Ledger.Step.ages
    exact ages.isRefilled
  | setStatus id status executed =>
    show d.store.ledger.IsRefilled _ (Store.updateStatus id status executed d.store).2.ledger
    exact Ledger.isRefilled_updateStatus id status executed d.store
  | change reference floor plan => exact refl_of (Ledger.IsRefilled _) d.store.ledger

end Act

namespace Desk

/-- **Several acts** fill rows anew as one of them reports. -/
theorem isRefilled_after (acts : List Act) (d : Desk) :
    d.store.ledger.IsRefilled (fun id x => ∃ a ∈ acts, a.Reports id x)
      (d.after acts).store.ledger := by
  induction acts generalizing d with
  | nil => exact refl_of (Ledger.IsRefilled _) d.store.ledger
  | cons a rest ih =>
    refine trans_of (Ledger.IsRefilled _) ((a.isRefilled_apply d).mono fun id x reports => ?_)
      ((ih (a.apply d)).mono fun id x ⟨b, mem, reports⟩ => ?_)
    · exact ⟨a, List.mem_cons_self .., reports⟩
    · exact ⟨b, List.mem_cons_of_mem _ mem, reports⟩

end Desk

/-! ## Holdings -/

namespace Holdings

/-- A trade in numbers. -/
def exactly (t : Trade Float) : Trade Rat where
  venue := t.venue
  isBuy := t.isBuy
  amount := t.amount.bind value?
  cost := t.cost.bind value?
  time := t.time

/-- **The totals are sums over the buys and over the sells.** -/
theorem totals_eq (trades : List (Trade Rat)) :
    totals trades
      = ⟨((trades.filter (·.isBuy)).map amountOf).sum,
          ((trades.filter (!·.isBuy)).map amountOf).sum,
          ((trades.filter (·.isBuy)).map costOf).sum⟩ := by
  unfold totals
  induction trades using List.reverseRecOn with
  | nil => rfl
  | append_singleton earlier t ih =>
    rw [List.foldl_append, ih, List.filter_append, List.filter_append, List.map_append,
      List.map_append, List.map_append, List.sum_append, List.sum_append, List.sum_append]
    show addToTotals _ t = _
    unfold addToTotals
    -- the last trade is summed alone: what it adds on the other side is nothing
    cases side : t.isBuy <;> simp [side]

/-- What is unknown counts as zero, and so does zero. -/
theorem orElse_zero (r : Option Rat) : Arith.orElse r 0 = r.getD 0 := by
  cases r with
  | none => rfl
  | some p =>
    by_cases zero : p = 0
    · subst zero
      rfl
    · exact if_pos (Arith.nonzero_iff.mpr zero)

end Holdings

namespace Ledger

/-- The filled orders of a user on a coin as trades in numbers. -/
def tradesFor (l : Ledger) (user coin : String) : List (Trade Rat) :=
  (l.filledFor user coin).map fun o => Holdings.exactly o.ticket.trade

/-- The filled buys of a user on a coin. -/
def buysFor (l : Ledger) (user coin : String) : List Order :=
  (l.filledFor user coin).filter fun o => o.side == Side.buy.name

/-- The trades that are buys. -/
theorem filter_tradesFor (l : Ledger) (user coin : String) :
    (l.tradesFor user coin).filter (·.isBuy)
      = (l.buysFor user coin).map fun o => Holdings.exactly o.ticket.trade := by
  unfold tradesFor buysFor
  rw [List.filter_map]
  rfl

/-- **The cost basis is the value of the amounts bought**, each at its average price, when the buys
are on their basis. -/
theorem totals_tradesFor {l : Ledger} {user coin : String}
    (basis : ∀ o ∈ l.buysFor user coin, o.IsOnBasis) :
    (Holdings.totals (l.tradesFor user coin)).bought
        = ((l.buysFor user coin).map fun o => o.filled?.getD 0).sum
      ∧ (Holdings.totals (l.tradesFor user coin)).costBasis
        = ((l.buysFor user coin).map fun o => o.filled?.getD 0 * o.price?.getD 0).sum := by
  rw [Holdings.totals_eq, filter_tradesFor, List.map_map, List.map_map]
  constructor
  · exact congrArg List.sum (List.map_congr_left fun o _ => Holdings.orElse_zero o.filled?)
  · refine congrArg List.sum (List.map_congr_left fun o among => ?_)
    obtain ⟨filled, price, isFilled, isPrice, isCost⟩ := basis o among
    rw [isFilled, isPrice]
    refine (Holdings.orElse_zero o.cost?).trans ?_
    rw [isCost]
    rfl

end Ledger

namespace Desk

/-- **Updates leave the costs of orders.** Whatever users ask for and whatever status is set from
outside, an order keeps its quantity, its average price and its cost, and the amount filled is what
it was or one that was reported, capped by the quantity. So an order that is on its basis stays on it
exactly when the amount filled stays the same number or the average price is zero. As long as the
filled buys of a coin are on their basis, the cost basis of its holdings is the value of the amounts
that they add up. -/
theorem updates_leave_costs (acts : List Act) (d : Desk) :
    (∀ id o, d.store.ledger.find? id = some o → o.IsOnBasis →
      ∃ o', (d.after acts).store.ledger.find? id = some o'
        ∧ o.IsRefilled (fun x => ∃ a ∈ acts, a.Reports id x) o'
        ∧ (o'.IsOnBasis
            ↔ o'.filled? = o.filled? ∨ o.price? = some 0 ∧ o'.filled?.isSome = true))
    ∧ ∀ user coin, (∀ o ∈ (d.after acts).store.ledger.buysFor user coin, o.IsOnBasis) →
        let totals := Holdings.totals ((d.after acts).store.ledger.tradesFor user coin)
        let buys := (d.after acts).store.ledger.buysFor user coin
        totals.bought = (buys.map fun o => o.filled?.getD 0).sum
        ∧ totals.costBasis = (buys.map fun o => o.filled?.getD 0 * o.price?.getD 0).sum := by
  refine ⟨fun id o found basis => ?_, fun user coin basis => Ledger.totals_tradesFor basis⟩
  obtain ⟨o', found', refilled⟩ := isRefilled_after acts d id o found
  exact ⟨o', found', refilled, basis.stays_iff refilled⟩

/-- An order of which half is filled at a price of a hundred. -/
def halfFilled : Order :=
  { Order.small "o1" "u1" "PARTIALLY_FILLED" none with
    executed := some 0.5, average := some 100.0, cost := some 50.0 }

/-- The desk on which this order is all there is. -/
def ofHalf : Desk := holding ⟨[halfFilled], by decide⟩ []

theorem isOnBasis_halfFilled : halfFilled.IsOnBasis :=
  ⟨1 / 2, 100, by decide +kernel, by decide +kernel, by decide +kernel⟩

/-- When the order is canceled its cost is still that of the half. -/
theorem updates_leave_costs_halfFilled :
    ofHalf.store.ledger.find? "o1" = some halfFilled
    ∧ halfFilled.IsOnBasis
    ∧ ∃ o', (ofHalf.after [.ask "u1" (.cancel "o1")]).store.ledger.find? "o1" = some o'
      ∧ o'.status = "CANCELED" ∧ o'.IsOnBasis := by
  have found : ofHalf.store.ledger.find? "o1" = some halfFilled := rfl
  obtain ⟨o', found', refilled, iff⟩ :=
    (updates_leave_costs [.ask "u1" (.cancel "o1")] ofHalf).1 "o1" halfFilled found
      isOnBasis_halfFilled
  have canceled : ((ofHalf.after [.ask "u1" (.cancel "o1")]).store.ledger.find? "o1").map
      (fun o => (o.status, o.filled?)) = some ("CANCELED", halfFilled.filled?) := by
    decide +kernel
  rw [found'] at canceled
  obtain ⟨status, filled⟩ := Prod.ext_iff.mp (Option.some.inj canceled)
  exact ⟨found, isOnBasis_halfFilled, o', found', status, iff.mpr (.inl filled)⟩

/-- **Updates take orders off their basis.** When the other half is reported to be filled the cost
is still that of the first, and so is the cost basis of the coin that is held. -/
theorem updates_take_orders_off_their_basis :
    ofHalf.store.ledger.find? "o1" = some halfFilled
    ∧ halfFilled.IsOnBasis
    ∧ ((ofHalf.after [.setStatus "o1" "FILLED" (some 1.0)]).store.ledger.find? "o1").map
        (fun o => (o.filled?, o.price?, o.cost?)) = some (some 1, some 100, some 50)
    ∧ (Holdings.totals ((ofHalf.after [.setStatus "o1" "FILLED" (some 1.0)]).store.ledger.tradesFor
        "u1" "btc")).costBasis = 50 := by
  exact ⟨rfl, isOnBasis_halfFilled, by decide +kernel, by decide +kernel⟩

end Desk

end OrderDesk

import OrderDesk.Proofs.Previews
import OrderDesk.Proofs.Submitted

/-!
# Every submission is measured, but for protection

The desk submits orders for placements only, and a placement submits only what passes as
what was asked for, and protective orders. That is less than could be hoped for: some of the
numbers that reach a venue were never held against its market. The second part of this module
shows each of the gaps on a small desk.
-/

namespace OrderDesk

namespace Desk

/-! ## Cancels -/

/-- **The cancel of one order** submits nothing. -/
theorem submitsOnly_cancelOne {P : String → Submission → Prop} (user id : String) (d : Desk) :
    SubmitsOnly P d (cancelOne user id d).2 := by
  have one : ∀ {o : Order} {f : Floor},
      Floor.Said o.venue d.floor f [.canceled o.venue o.venueOrderId o.symbol] [] →
      d.floor.SubmitsOnly P f :=
    fun said => ⟨_, said.commands, fun slug order mem => by cases List.mem_singleton.mp mem⟩
  have ends := cancelsOne user id d
  generalize (cancelOne user id d).1 = r at ends
  generalize (cancelOne user id d).2 = d' at ends
  cases ends with
  | unasked stuck reads => exact reads.submitsOnly
  | refused has said idle => exact one said
  | closed has said ledger incidents => exact one said

end Desk

/-! ## Operations -/

namespace Operation

/-- The placement that an operation is, for a user. -/
def placement? (user : String) : Operation → Option Placement
  | place r => some (.byStrategy r user)
  | placeByHand r => some (.byHand r user)
  | _ => none

/-- **What an operation may submit** at a desk: what its placement may, to the venue of the
placement. -/
def Sends (op : Operation) (user : String) (d : Desk) (slug : String) (order : Submission) :
    Prop :=
  ∃ p, op.placement? user = some p ∧ slug = p.venue ∧ p.Sends d order

/-- **Every submission is measured, but for protection.** Whatever a user asks for, with
requests that were read from forms, only a placement submits anything, and only to its
venue: orders that pass as what was asked for, and protective orders for an entry that
stands. -/
theorem submissions_are_measured (op : Operation) (user : String) (d : Desk)
    (read : ∀ p, op.placement? user = some p →
      ∃ form, OrderRequest.read form = .good p.request) :
    d.floor.SubmitsOnly (op.Sends user d) (op.run user d).2.floor := by
  have placed : ∀ p, op.placement? user = some p → (op.run user d).2 = (p.run d).2 →
      d.floor.SubmitsOnly (op.Sends user d) (op.run user d).2.floor := by
    intro p is ends
    obtain ⟨form, read⟩ := read p is
    rw [ends]
    exact (p.submitsOnly_run d (OrderRequest.isPositive_of_read read)).mono
      fun slug order sends => ⟨p, is, sends⟩
  cases op with
  | place r => exact placed (.byStrategy r user) rfl (congrArg Prod.snd (Run.map_apply _ _ d))
  | placeByHand r => exact placed (.byHand r user) rfl (congrArg Prod.snd (Run.map_apply _ _ d))
  | cancel id =>
    rw [show ((cancel id).run user d).2 = (Desk.cancelOrder user id d).2 from
      congrArg Prod.snd (Run.map_apply _ Answer.ticket d)]
    exact Desk.keeps_cancelOrder (Desk.submitsOnly_cancelOne user) (fun _ _ => .of_eq rfl) id d
  | fill id =>
    rw [show ((fill id).run user d).2 = (Desk.handleFill user id d).2 from
      congrArg Prod.snd (Run.map_apply _ Answer.sibling d)]
    exact Desk.keeps_handleFill (Desk.submitsOnly_cancelOne user) (fun _ _ => .of_eq rfl) id d
  | preview r =>
    have previews : (preview r).isPreview = true := rfl
    obtain ⟨floor, ended, reads, -⟩ := run_of_isPreview previews user d
    rw [ended]
    exact reads.submitsOnly
  | previewByHand r =>
    have previews : (previewByHand r).isPreview = true := rfl
    obtain ⟨floor, ended, reads, -⟩ := run_of_isPreview previews user d
    rw [ended]
    exact reads.submitsOnly
  | order | orders | openOrders | holdings => exact .of_eq rfl

/-- A form for one coin at market, protected by a stop. -/
def protectedForm : List (String × Payload) := Placement.protectedCoin.toForm

/-- An entry and its protection are submitted. -/
theorem submissions_are_measured_protectedCoin :
    OrderRequest.read protectedForm = .good Placement.protectedCoin
    ∧ ((placeByHand Placement.protectedCoin).run "u1" (Desk.small [] {})).2.floor.commands.length
        = 2
    ∧ (Desk.small [] {}).floor.SubmitsOnly
        ((placeByHand Placement.protectedCoin).Sends "u1" (Desk.small [] {}))
        ((placeByHand Placement.protectedCoin).run "u1" (Desk.small [] {})).2.floor :=
  ⟨rfl, by decide +kernel, submissions_are_measured _ "u1" _ fun p is => by
    cases is
    exact ⟨protectedForm, rfl⟩⟩

end Operation

/-! ## What is not measured -/

/-- **An order is measured throughout**: the venue takes orders of its type, and the market
takes its amount and every price that it carries. -/
structure Submission.IsMeasured (order : Submission) (slug : String) (m : Market) : Prop where
  /-- It is of a type that the venue takes. -/
  supported : ∃ leg : Leg, Venue.supports slug leg.venueType = true
    ∧ (leg.instruction order.symbol).shape slug = .ok order
  amount : m.FitsAmount order.amount
  /-- No multiple of a step is infinite. -/
  finite : (m.amountStep.bind Step.usable?).isSome = true → order.amount.isFinite = true
  price : ∀ x, order.price = some x → m.FitsPrice x
  triggers : ∀ t ∈ order.triggers, ∃ x, t = .real x ∧ m.FitsPrice x

namespace Operation

/-- **Every submission is measured throughout** that an operation makes: the market takes the
amount and every price that it carries, and the venue takes orders of its type. -/
def MeasuresAll (op : Operation) (user : String) (d : Desk) : Prop :=
  d.floor.SubmitsOnly
    (fun slug order => ∃ m, d.floor.marketOf? slug order.symbol = some m
      ∧ order.IsMeasured slug m)
    (op.run user d).2.floor

/-- **An operation submits an order** for a pair to a venue, that passes a check. -/
def submitsOne (op : Operation) (user slug symbol : String) (d : Desk)
    (check : Submission → Bool) : Bool :=
  (op.run user d).2.floor.commands.any fun e =>
    e.slug == slug && e.submission?.any fun order => order.symbol == symbol && check order

/-- One submission of those that are all measured throughout. -/
theorem MeasuresAll.of_submitsOne {op : Operation} {user slug symbol : String} {d : Desk}
    {check : Submission → Bool} (h : op.MeasuresAll user d) (fresh : d.floor.commands = [])
    (sent : op.submitsOne user slug symbol d check = true) :
    ∃ order m, check order = true ∧ d.floor.marketOf? slug symbol = some m
      ∧ order.IsMeasured slug m := by
  obtain ⟨commands, after, all⟩ := h
  rw [fresh, List.nil_append] at after
  unfold submitsOne at sent
  rw [after] at sent
  obtain ⟨⟨place, call⟩, mem, holds⟩ := List.any_eq_true.mp sent
  obtain ⟨here, ordered⟩ := Bool.and_eq_true_iff.mp holds
  obtain rfl : place = slug := beq_iff_eq.mp here
  clear holds here sent
  cases call with
  | createOrder order =>
    obtain ⟨there, checked⟩ := Bool.and_eq_true_iff.mp ordered
    obtain rfl : order.symbol = symbol := beq_iff_eq.mp there
    obtain ⟨m, measured⟩ := all place order mem
    exact ⟨order, m, checked, measured⟩
  | _ => cases ordered

/-- A market with limits for prices and with a step for amounts. -/
def limited (amountStep : Payload) : Payload :=
  .object [("symbol", .text "BTC/USDT"),
    ("limits", .object [("price", .object [("min", .real 0.01), ("max", .real 100.0)])]),
    ("precision", .object [("amount", amountStep)])]

/-- The small desk with that market, on a venue. -/
def limitedDesk (slug : String) (amountStep : Payload) : Desk :=
  { Desk.small [] {} with
    reference :=
      { (Desk.small [] {}).reference with
        credentials := ⟨[{ id := "c1", user := "u1", venue := slug }]⟩ }
    floor := { venues := [(slug, { markets := [("BTC/USDT", limited amountStep)] })] } }

open Desk (oneCoin)

/-- Protection at a price below the least price of the market. -/
def lowProtection : OrderRequest := { oneCoin with stopLossPrice := some 0.001 }

/-- Protection by a take-profit, at a venue that takes no such orders. -/
def profitProtected : OrderRequest :=
  { oneCoin with venue := "kucoin", takeProfitPrice := some 2.0 }

/-- A limit order that becomes active above the greatest price of the market. -/
def highTrigger : OrderRequest :=
  { oneCoin with type := .stopLimit, price := some 1.0, stopPrice := some 200.0 }

/-- More than there can be. -/
def endless : OrderRequest := { oneCoin with quantity := 1.0 / 0.0 }

/-- **What is not measured**: the price of a protective order and its type, the price at
which an order with a limit becomes active, whether an amount is finite, and any amount when
the step is NaN. -/
theorem not_all_measured :
    (∀ r ∈ [lowProtection, profitProtected, highTrigger, endless, oneCoin],
      OrderRequest.read r.toForm = .good r)
    ∧ ¬ (placeByHand lowProtection).MeasuresAll "u1" (limitedDesk "binance" (.real 0.5))
    ∧ ¬ (placeByHand profitProtected).MeasuresAll "u1" (limitedDesk "kucoin" (.real 0.5))
    ∧ ¬ (placeByHand highTrigger).MeasuresAll "u1" (limitedDesk "binance" (.real 0.5))
    ∧ ¬ (placeByHand endless).MeasuresAll "u1" (limitedDesk "binance" (.real 0.5))
    ∧ ¬ (place oneCoin).MeasuresAll "u1" (limitedDesk "binance" (.text "nan")) := by
  have known : ((limitedDesk "binance" (.real 0.5)).floor.marketOf? "binance" "BTC/USDT").map
      (fun m => (m.minPrice, m.maxPrice, (m.amountStep.bind Step.usable?).isSome))
      = some (some 0.01, some 100.0, true) := by
    decide +kernel
  have rules : ∀ {m : Market},
      (limitedDesk "binance" (.real 0.5)).floor.marketOf? "binance" "BTC/USDT" = some m →
      m.minPrice = some 0.01 ∧ m.maxPrice = some 100.0
        ∧ (m.amountStep.bind Step.usable?).isSome = true := by
    intro m found
    rw [found] at known
    have same := Option.some.inj known
    exact ⟨congrArg (·.1) same, congrArg (·.2.1) same, congrArg (·.2.2) same⟩
  refine ⟨fun r mem => ?_, fun all => ?_, fun all => ?_, fun all => ?_, fun all => ?_,
    fun all => ?_⟩
  · simp only [List.mem_cons, List.not_mem_nil, or_false] at mem
    rcases mem with rfl | rfl | rfl | rfl | rfl <;> rfl
  · have sent : (placeByHand lowProtection).submitsOne "u1" "binance" "BTC/USDT"
        (limitedDesk "binance" (.real 0.5))
        (fun order => order.triggers.any fun | .real x => x < 0.01 | _ => false) = true := by
      decide +kernel
    obtain ⟨order, m, low, found, measured⟩ := all.of_submitsOne rfl sent
    obtain ⟨t, mem, low⟩ := List.any_eq_true.mp low
    obtain ⟨x, rfl, fits⟩ := measured.triggers t mem
    exact Number.not_lt_of_le (fits.least 0.01 (rules found).1 (by decide))
      (of_decide_eq_true low)
  · have sent : (placeByHand profitProtected).submitsOne "u1" "kucoin" "BTC/USDT"
        (limitedDesk "kucoin" (.real 0.5))
        (fun order => order.extras.takeProfitPrice.isSome) = true := by
      decide +kernel
    obtain ⟨order, m, profit, found, measured⟩ := all.of_submitsOne rfl sent
    obtain ⟨leg, supported, shaped⟩ := measured.supported
    have type := (Instruction.conveys_of_shape shaped).profit profit
    rw [show (leg.instruction order.symbol).type = leg.venueType.name from rfl,
      Instruction.ofName?_upper_name] at type
    rw [Option.some.inj type] at supported
    cases supported
  · have sent : (placeByHand highTrigger).submitsOne "u1" "binance" "BTC/USDT"
        (limitedDesk "binance" (.real 0.5))
        (fun order => order.triggers.any fun | .real x => 100.0 < x | _ => false) = true := by
      decide +kernel
    obtain ⟨order, m, high, found, measured⟩ := all.of_submitsOne rfl sent
    obtain ⟨t, mem, high⟩ := List.any_eq_true.mp high
    obtain ⟨x, rfl, fits⟩ := measured.triggers t mem
    exact Number.not_lt_of_le (fits.greatest 100.0 (rules found).2.1 (by decide))
      (of_decide_eq_true high)
  · have sent : (placeByHand endless).submitsOne "u1" "binance" "BTC/USDT"
        (limitedDesk "binance" (.real 0.5)) (fun order => !order.amount.isFinite) = true := by
      decide +kernel
    obtain ⟨order, m, infinite, found, measured⟩ := all.of_submitsOne rfl sent
    rw [measured.finite (rules found).2.2] at infinite
    cases infinite
  · have sent : (place oneCoin).submitsOne "u1" "binance" "BTC/USDT"
        (limitedDesk "binance" (.text "nan")) (fun order => order.amount.isNaN) = true := by
      decide +kernel
    obtain ⟨order, m, nan, -, measured⟩ := all.of_submitsOne rfl sent
    rw [(Number.isNaN_of_lt measured.amount.positive).2] at nan
    cases nan

end Operation

end OrderDesk

import OrderDesk.Proofs.Exact
import OrderDesk.Proofs.Single

/-!
# What is booked is consistent

What a venue leaves out of its report is inferred: the amount filled from the status, the average
price from the cost or else from the price, and the cost from the average price. So the three agree
wherever one of them is inferred, the cost being the amount filled at the average price. There is
one exception (`Booking.IsFree`). A cost of zero counts as a cost when the cost is booked, but not
when the average price is inferred. An order that was filled for nothing is then booked at a cost of
zero and at an average price that is its limit.

These are laws of exact arithmetic. The record is computed in doubles, and it is what is booked in
exact arithmetic but for the rounding of one quotient and one product (`Booking.IsRounded`).
-/

namespace OrderDesk

open Number (Is IsOptional)

/-! ## Reports and bookings in exact arithmetic -/

/-- A report in doubles **is** a report in numbers. -/
structure ExecutionReport.IsExactly (r : ExecutionReport Float) (e : ExecutionReport Rat) :
    Prop where
  amount : IsOptional r.amount e.amount
  filled : IsOptional r.filled e.filled
  price : IsOptional r.price e.price
  average : IsOptional r.average e.average
  cost : IsOptional r.cost e.cost

namespace Booking

/-- **A booking is consistent**: the cost is the amount filled at the average price, if there is an
average price. -/
def IsConsistent (b : Booking Rat) : Prop := ∀ a, b.average = some a → b.cost = b.executed * a

/-- **An order is filled for nothing**: the venue states no average price and a cost of zero, and
yet something is filled of an order that has a price. -/
structure IsFree (report : ExecutionReport Rat) (b : Booking Rat) : Prop where
  average : report.average = none
  cost : report.cost = some 0
  executed : 0 < b.executed
  price : ∃ p, b.price = some p ∧ p ≠ 0

/-- **A booking in doubles is one in numbers, but for rounding**: where the average price is the
cost over the amount filled the quotient is rounded, and where the cost is the amount filled at the
average price the product is. -/
structure IsRounded (b : Booking Float) (e : Booking Rat) : Prop where
  quantity : Is b.quantity e.quantity
  executed : Is b.executed e.executed
  price : IsOptional b.price e.price
  average : IsOptional b.average e.average
    ∨ ∃ c q, Is c q ∧ b.average = some (c / b.executed) ∧ e.average = some (q / e.executed)
  cost : Is b.cost e.cost
    ∨ ∃ a q, Is a q ∧ b.cost = b.executed * a ∧ e.cost = e.executed * q

/-! ## The average price that is inferred -/

section

variable {K : Type} [Arith K] {cost price : Option K} {executed : K}

theorem averageOf_of_not_pos (h : ¬ 0 < executed) : averageOf none cost price executed = none :=
  if_neg h

theorem averageOf_of_pos (h : 0 < executed) :
    averageOf none cost price executed = match stated cost with
      | some c => some (c / executed)
      | none => stated price := if_pos h

/-- With a cost the average price is a quotient. -/
theorem averageOf_of_cost {c : K} (h : 0 < executed) (isCost : stated cost = some c) :
    averageOf none cost price executed = some (c / executed) := by
  rw [averageOf_of_pos h, isCost]

/-- Without a cost the average price is the price. -/
theorem averageOf_of_price (h : 0 < executed) (unstated : stated cost = none) :
    averageOf none cost price executed = stated price := by
  rw [averageOf_of_pos h, unstated]

end

/-! ## Consistency -/

section

variable {x y : Option Rat} {p : Rat}

theorem stated_some (h : p ≠ 0) : stated (some p) = some p := if_pos (Arith.nonzero_iff.mpr h)

theorem stated_zero : stated (some (0 : Rat)) = none := rfl

theorem stated_eq_some_iff : stated x = some p ↔ x = some p ∧ p ≠ 0 := by
  cases x with
  | none => exact ⟨nofun, nofun⟩
  | some q =>
    by_cases zero : q = 0
    · subst zero
      exact ⟨nofun, fun ⟨same, nonzero⟩ => absurd (Option.some.inj same).symm nonzero⟩
    · rw [stated_some zero, and_iff_left_of_imp (by rintro ⟨rfl⟩; exact zero)]

/-- The cost that is booked when none is reported. -/
theorem costOf_none (average : Option Rat) (executed : Rat) :
    ∀ a, average = some a → costOf none average executed = executed * a := by
  rintro a rfl
  by_cases zero : a = 0
  · subst zero
    exact (Rat.mul_zero executed).symm
  · unfold costOf
    rw [stated_some zero]

end

section

variable {reported cost price : Option Rat} {executed : Rat}

/-- **What is inferred is consistent** unless the order is filled for nothing. -/
theorem costOf_averageOf_iff (leaves : reported = none ∨ cost = none) :
    (∀ a, averageOf reported cost price executed = some a →
        costOf cost (averageOf reported cost price executed) executed = executed * a)
      ↔ ¬ (reported = none ∧ cost = some 0 ∧ 0 < executed ∧ ∃ p, price = some p ∧ p ≠ 0) := by
  rcases cost with _ | c
  · exact iff_of_true (fun a => costOf_none _ executed a) (fun free => nomatch free.2.1)
  obtain rfl : reported = none := leaves.resolve_right (Option.some_ne_none c)
  by_cases filled : 0 < executed
  case neg =>
    rw [averageOf_of_not_pos filled]
    exact iff_of_true nofun fun free => filled free.2.2.1
  by_cases free : c = 0
  case neg =>
    rw [averageOf_of_cost filled (stated_some free)]
    refine iff_of_true ?_ fun ⟨_, isFree, _⟩ => free (Option.some.inj isFree)
    rintro _ ⟨⟩
    exact (mul_div_cancel₀ c filled.ne').symm
  subst free
  rw [averageOf_of_price filled stated_zero]
  constructor
  · rintro consistent ⟨-, -, -, p, rfl, nonzero⟩
    have none : 0 = executed * p := consistent p (stated_some nonzero)
    rcases Rat.mul_eq_zero.mp none.symm with unfilled | unpriced
    · exact filled.ne' unfilled
    · exact nonzero unpriced
  · intro unpriced a average
    obtain ⟨isPrice, nonzero⟩ := stated_eq_some_iff.mp average
    exact absurd ⟨rfl, rfl, filled, a, isPrice, nonzero⟩ unpriced

end

variable (status : OrderStatus) (report : ExecutionReport Rat) (quantity : Rat) (limit : Option Rat)

/-- **A booking of which the venue left out the average price or the cost is consistent** unless the
order is filled for nothing. -/
theorem isConsistent_iff (leaves : report.average = none ∨ report.cost = none) :
    (infer status report quantity limit).IsConsistent
      ↔ ¬ IsFree report (infer status report quantity limit) := by
  refine (costOf_averageOf_iff leaves).trans (not_congr ?_)
  exact ⟨fun ⟨average, cost, executed, price⟩ => ⟨average, cost, executed, price⟩,
    fun free => ⟨free.average, free.cost, free.executed, free.price⟩⟩

/-- **What is filled when the venue does not say**: all or nothing by the status, and never more
than the quantity. -/
theorem executed_of_unfilled (unfilled : report.filled = none) :
    (infer status report quantity limit).executed
      = if status = .filled then (infer status report quantity limit).quantity
        else min 0 (infer status report quantity limit).quantity := by
  show executedOf status report.filled _ = _
  rw [executedOf, unfilled, Arith.cap_eq_min]
  by_cases filled : status = .filled
  · rw [if_pos filled, filled]
    exact min_self _
  · rw [if_neg filled, Option.getD_none, if_neg (by rwa [beq_iff_eq])]
    rfl

/-! ## Rounding -/

section

variable {x y : Option Float} {p q : Option Rat} {executed : Float} {filled : Rat}

theorem isOptional_either (hx : IsOptional x p) (hy : IsOptional y q) :
    IsOptional (either x y) (either p q) := by
  cases hx with
  | none => exact hy
  | some h =>
    unfold either
    dsimp only
    rw [Arith.nonzero_of_is h]
    split
    · exact .some h
    · exact hy

theorem isOptional_stated (hx : IsOptional x p) : IsOptional (stated x) (stated p) :=
  isOptional_either hx .none

theorem is_executedOf (status : OrderStatus) {quantity : Float} {amount : Rat}
    (hx : IsOptional x p) (hq : Is quantity amount) :
    Is (executedOf status x quantity) (executedOf status p amount) := by
  refine Arith.is_cap ?_ hq
  cases hx with
  | some h => exact h
  | none =>
    show Is (if status == .filled then quantity else 0.0) (if status == .filled then amount else 0)
    split
    · exact hq
    · exact Number.is_zero

/-- Something is filled in doubles when something is in numbers. -/
theorem pos_iff_of_is (h : Is executed filled) : 0.0 < executed ↔ 0 < filled :=
  Number.lt_iff_of_is Number.is_zero h

/-- Where no cost is stated the average price is not rounded. -/
theorem averageOf_unrounded {reported cost price : Option Float}
    {average charge limit : Option Rat} (ha : IsOptional reported average)
    (unstated : stated cost = none) (free : stated charge = none)
    (hp : IsOptional price limit) (he : Is executed filled) :
    IsOptional (averageOf reported cost price executed)
      (averageOf average charge limit filled) := by
  cases ha with
  | some h => exact .some h
  | none =>
    have same := pos_iff_of_is he
    by_cases positive : 0 < filled
    · rw [averageOf_of_price (same.mpr positive) unstated,
        averageOf_of_price positive free]
      exact isOptional_stated hp
    · rw [averageOf_of_not_pos (mt same.mp positive), averageOf_of_not_pos positive]
      exact .none

/-- **The average price is rounded** only when it is the cost over the amount filled. -/
theorem averageOf_rounded {reported cost price : Option Float}
    {average charge limit : Option Rat} (ha : IsOptional reported average)
    (hc : IsOptional cost charge) (hp : IsOptional price limit) (he : Is executed filled) :
    IsOptional (averageOf reported cost price executed) (averageOf average charge limit filled)
      ∨ ∃ c q, Is c q ∧ averageOf reported cost price executed = some (c / executed)
        ∧ averageOf average charge limit filled = some (q / filled) := by
  rcases Number.isOptional_cases (isOptional_stated hc) with
    ⟨unstated, free⟩ | ⟨c, q, isCost, isCharge, same⟩
  · exact .inl (averageOf_unrounded ha unstated free hp he)
  cases ha with
  | some h => exact .inl (.some h)
  | none =>
    have filling := pos_iff_of_is he
    by_cases positive : 0 < filled
    · exact .inr ⟨c, q, same, averageOf_of_cost (filling.mpr positive) isCost,
        averageOf_of_cost positive isCharge⟩
    · rw [averageOf_of_not_pos (mt filling.mp positive), averageOf_of_not_pos positive]
      exact .inl .none

/-- **The cost is rounded** only when it is the amount filled at an average price. -/
theorem costOf_rounded {reported average : Option Float} {charge mean : Option Rat}
    (hr : IsOptional reported charge) (ha : reported = none → IsOptional average mean) :
    Is (costOf reported average executed) (costOf charge mean filled)
      ∨ ∃ a q, Is a q ∧ costOf reported average executed = executed * a
        ∧ costOf charge mean filled = filled * q := by
  cases hr with
  | some h => exact .inl h
  | none =>
    unfold costOf
    dsimp only
    rcases Number.isOptional_cases (isOptional_stated (ha rfl)) with
      ⟨none, none'⟩ | ⟨a, q, isAverage, isMean, same⟩
    · rw [none, none']
      exact .inl Number.is_zero
    · rw [isAverage, isMean]
      exact .inr ⟨a, q, same, rfl, rfl⟩

end

/-- **The record is computed as it would be exactly**, but for rounding. -/
theorem isRounded_infer (status : OrderStatus) {r : ExecutionReport Float} {e : ExecutionReport Rat}
    {quantity : Float} {amount : Rat} {limit : Option Float} {bound : Option Rat}
    (report : r.IsExactly e) (hq : Is quantity amount) (hl : IsOptional limit bound) :
    (infer status r quantity limit).IsRounded (infer status e amount bound) := by
  have whole := Arith.is_orElse report.amount hq
  have executed := is_executedOf status report.filled whole
  have price := isOptional_either report.price hl
  refine ⟨whole, executed, price, averageOf_rounded report.average report.cost price executed,
    costOf_rounded report.cost fun unstated => ?_⟩
  have free : e.cost = none := Number.eq_none_of_isOptional (unstated ▸ report.cost)
  refine averageOf_unrounded report.average ?_ ?_ price executed
  · rw [unstated]
    rfl
  · rw [free]
    rfl

end Booking

/-! ## No division by zero -/

/-- Arithmetic in which only a positive number divides. -/
@[reducible] def Arith.guarded {K : Type} [Arith K] (other : K) : Arith K :=
  Arith.dividingBy (fun y => decide (0 < y)) other

namespace Booking

/-- **Nothing is divided by zero**: what is booked is the same whatever comes of a division by a
number that is not positive. -/
theorem infer_guarded {K : Type} [Arith K] (other : K) (status : OrderStatus)
    (report : ExecutionReport K) (quantity : K) (limit : Option K) :
    @infer K (Arith.guarded other) status report quantity limit
      = infer status report quantity limit := by
  have average (reported cost price : Option K) (executed : K) :
      @averageOf K (Arith.guarded other) reported cost price executed
        = averageOf reported cost price executed := by
    cases reported with
    | some a => rfl
    | none =>
      by_cases positive : 0 < executed
      · refine (@averageOf_of_pos K (Arith.guarded other) _ _ _ positive).trans
          (Eq.trans ?_ (averageOf_of_pos positive).symm)
        show (match stated cost with
          | some c => some (if decide (0 < executed) = true then c / executed else other)
          | none => stated price) = _
        cases stated cost with
        | none => rfl
        | some c => exact congrArg some (if_pos (decide_eq_true positive))
      · exact (@averageOf_of_not_pos K (Arith.guarded other) _ _ _ positive).trans
          (averageOf_of_not_pos positive).symm
  unfold infer
  dsimp only
  rw [average]
  rfl

end Booking

/-! ## Records -/

/-- What is finite if it is there is an optional number. -/
theorem Number.exists_isOptional {o : Option Float}
    (finite : ∀ x, o = some x → x.isFinite = true) : ∃ r, IsOptional o r := by
  cases o with
  | none => exact ⟨none, .none⟩
  | some x =>
    obtain ⟨p, is⟩ := Option.isSome_iff_exists.mp (Number.isSome_value? (finite x rfl))
    exact ⟨some p, .some is⟩

/-- **Every report of finite numbers is a report in numbers.** -/
theorem ExecutionReport.exists_isExactly {r : ExecutionReport Float}
    (finite : ∀ o ∈ [r.amount, r.filled, r.price, r.average, r.cost],
      ∀ x, o = some x → x.isFinite = true) : ∃ e, r.IsExactly e := by
  obtain ⟨amount, isAmount⟩ := Number.exists_isOptional (finite r.amount (by simp))
  obtain ⟨filled, isFilled⟩ := Number.exists_isOptional (finite r.filled (by simp))
  obtain ⟨price, isPrice⟩ := Number.exists_isOptional (finite r.price (by simp))
  obtain ⟨average, isAverage⟩ := Number.exists_isOptional (finite r.average (by simp))
  obtain ⟨cost, isCost⟩ := Number.exists_isOptional (finite r.cost (by simp))
  exact ⟨⟨amount, filled, price, average, cost⟩, isAmount, isFilled, isPrice, isAverage, isCost⟩

/-- **A record holds what is booked.** -/
structure Ticket.Books (t : Ticket) (b : Booking Float) : Prop where
  quantity : t.quantity = some b.quantity
  price : t.price = b.price
  executed : t.executed = some b.executed
  average : t.average = b.average
  cost : t.cost = some b.cost

namespace Leg

/-- **The record of a leg is consistent unless it was filled for nothing.** Read exactly, with any
finite numbers in the acknowledgement and in the leg, the cost is the amount filled at the average
price when the venue left out one of the two, unless the venue states a cost of zero for a fill at
a price. What is filled when the venue does not say is all of the quantity or nothing, and nothing
is more than a quantity below zero. No number that is not positive divides. -/
theorem record_is_consistent_iff (ctx : Context) (leg : Leg) (ack : Ack) (marks : Marks)
    {status : OrderStatus} (read : statusOf ack.status = .ok status) :
    ∃ t, record ctx leg ack marks = .ok t
      ∧ t.Books (Booking.infer status (reportOf ack) leg.quantity leg.price)
      ∧ (∀ other, @Booking.infer Float (Arith.guarded other) status (reportOf ack) leg.quantity
          leg.price = Booking.infer status (reportOf ack) leg.quantity leg.price)
      ∧ ∀ (report : ExecutionReport Rat) (quantity : Rat) (limit : Option Rat),
          (reportOf ack).IsExactly report → Is leg.quantity quantity →
          IsOptional leg.price limit →
          let booking := Booking.infer status report quantity limit
          (Booking.infer status (reportOf ack) leg.quantity leg.price).IsRounded booking
          ∧ (ack.average = none ∨ ack.cost = none →
              (booking.IsConsistent ↔ ¬ Booking.IsFree report booking))
          ∧ (ack.filled = none → booking.executed
              = if status = .filled then booking.quantity else min 0 booking.quantity) := by
  refine ⟨_, Run.bind_of_ok read rfl, ⟨rfl, rfl, rfl, rfl, rfl⟩,
    fun other => Booking.infer_guarded other .., fun report quantity limit exact hq hl =>
      ⟨Booking.isRounded_infer status exact hq hl, fun leaves => ?_, fun unfilled => ?_⟩⟩
  · refine Booking.isConsistent_iff status report quantity limit ?_
    refine leaves.imp (fun unstated => ?_) fun unstated => ?_
    · exact Number.eq_none_of_isOptional (unstated ▸ exact.average)
    · exact Number.eq_none_of_isOptional (unstated ▸ exact.cost)
  · exact Booking.executed_of_unfilled status report quantity limit
      (Number.eq_none_of_isOptional (unfilled ▸ exact.filled))

/-- One coin at market. -/
def ofOneCoin : Leg where
  recordType := .market
  venueType := .market
  side := .buy
  quantity := 1.0
  clientId := "x"

end Leg

/-- Bitcoin against Tether on one venue. -/
def Context.small : Context where
  user := "u1"
  base := ⟨"btc", "BTC", none⟩
  quote := ⟨"usdt", "USDT", none⟩
  slug := "binance"
  symbol := "BTC/USDT"

/-- An order was filled, and the venue states the price alone. -/
def Ack.priced : Ack where
  id := "v1"
  symbol := .null
  side := .null
  type := .null
  status := .text "closed"
  clientId := .null
  amount := none
  filled := none
  price := some 100.0
  average := none
  cost := none
  fee := none
  feeCurrency := .null
  timestamp := none

namespace Leg

theorem record_is_consistent_iff_ofOneCoin :
    statusOf Ack.priced.status = .ok .filled
    ∧ ∃ t, record .small ofOneCoin .priced ⟨true, false, none, none⟩ = .ok t
      ∧ t.Books (Booking.infer .filled (reportOf .priced) 1.0 none)
      ∧ (Booking.infer .filled ⟨none, none, some 100, none, none⟩ 1 none).IsConsistent := by
  have read : statusOf Ack.priced.status = .ok .filled := by decide +kernel
  obtain ⟨t, recorded, books, -, exactly⟩ :=
    record_is_consistent_iff .small ofOneCoin .priced ⟨true, false, none, none⟩ read
  have price : Is 100.0 100 := by decide +kernel
  have quantity : Is 1.0 1 := by decide +kernel
  obtain ⟨-, consistent, -⟩ := exactly ⟨none, none, some 100, none, none⟩ 1 none
    ⟨.none, .none, .some price, .none, .none⟩ quantity .none
  exact ⟨read, t, recorded, books, (consistent (.inl rfl)).mpr fun free => nomatch free.cost⟩

end Leg

/-! ## Two records -/

namespace Desk

/-- The record of a buy of one coin that a venue answers like this. -/
def answered (fields : List (String × Payload)) : Option Ticket :=
  (createOrder oneCoin "u1" (small [.accepted (.object fields)] {})).1.toOption

/-- **Records are not always consistent.** A fill at a cost of zero is recorded with an average
price of 100 and a cost of zero, and an open order of which the venue says that its amount is below
zero is recorded as filled by that amount. -/
theorem records_are_not_always_consistent :
    ((answered [("status", .text "closed"), ("filled", .real 1.0), ("price", .real 100.0),
        ("cost", .real 0.0)]).map fun t =>
          (t.executed.bind Number.value?, t.average.bind Number.value?,
            t.cost.bind Number.value?)) = some (some 1, some 100, some 0)
    ∧ ((answered [("status", .text "open"), ("amount", .real (-1.0))]).map fun t =>
          (t.status, t.executed.bind Number.value?)) = some (some "NEW", some (-1)) := by
  decide +kernel

end Desk

end OrderDesk

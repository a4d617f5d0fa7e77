import OrderDesk.Proofs.Measured
import OrderDesk.Proofs.Pair

/-!
# Orders that pass

What an order was measured for and what is sent in the end are not quite the same. The
amount and the limit are sent as the market takes them. The price at which an order becomes
active is measured when the order has no limit, and is sent as it was asked for.

A protective order is not measured at all: it is for the quantity of the entry's row and at
the price that was asked for, whether or not the market takes the two and the venue takes
orders of its type. `OrderRequest.Passes` and `OrderRequest.Protects` say what is true of
the two kinds of orders.
-/

namespace OrderDesk

/-! ## Submissions -/

namespace Submission

/-- The prices at which the order becomes active. -/
def triggers (order : Submission) : List Payload :=
  [order.extras.stopLossPrice, order.extras.triggerPrice,
    order.extras.takeProfitPrice].filterMap id

end Submission

namespace Instruction

variable {slug : String} {i : Instruction} {order : Submission}

theorem of_need {term : Option Payload} {name : String} {p : Payload}
    (h : need term name = .ok p) : term = some p := by
  cases term with
  | none => cases h
  | some q =>
    cases h
    rfl

/-- **What an order is submitted with** is what was handed to the line: the limit or none,
and as a trigger the stop price or the profit target. -/
structure Conveys (i : Instruction) (order : Submission) : Prop where
  symbol : order.symbol = i.symbol
  side : order.side = Text.lower i.side
  amount : order.amount = i.quantity
  price : ∀ x, order.price = some x → i.price = some x
  triggers : ∀ t ∈ order.triggers, i.terms.stopPrice = some t ∨ i.terms.takeProfitPrice = some t
  /-- Only a take-profit order takes profit. -/
  profit : order.extras.takeProfitPrice.isSome = true →
    (Vocabulary.ofName? (Text.upper i.type) : Option OrderType) = some .takeProfit

/-- **Shaping conveys** what was handed to the line. -/
theorem conveys_of_shape (h : i.shape slug = .ok order) : i.Conveys order := by
  obtain ⟨⟨execution, price, extras⟩, arranged, h⟩ := Run.ok_of_bind h
  cases h
  have unlimited : ∀ x, (none : Option Float) = some x → i.price = some x :=
    fun _ none => nomatch none
  have limited : ∀ x, i.price = some x → i.price = some x := fun _ same => same
  have untriggered : ∀ t ∈ ([] : List Payload),
      i.terms.stopPrice = some t ∨ i.terms.takeProfitPrice = some t := fun _ mem => nomatch mem
  unfold arguments at arranged
  dsimp only at arranged
  -- one case for each type, and one for a name of none
  split at arranged
  case h_1 =>
    cases arranged
    exact ⟨rfl, rfl, rfl, unlimited, untriggered, fun some => (nomatch some)⟩
  case h_2 =>
    cases arranged
    exact ⟨rfl, rfl, rfl, limited, untriggered, fun some => (nomatch some)⟩
  case h_3 | h_4 =>
    obtain ⟨stop, needed, arranged⟩ := Run.ok_of_bind arranged
    have stops : ∀ t ∈ [stop], i.terms.stopPrice = some t ∨ i.terms.takeProfitPrice = some t :=
      fun t mem => .inl (List.mem_singleton.mp mem ▸ of_need needed)
    cases arranged
    first
    | exact ⟨rfl, rfl, rfl, unlimited, stops, fun some => (nomatch some)⟩
    | exact ⟨rfl, rfl, rfl, limited, stops, fun some => (nomatch some)⟩
  case h_5 type =>
    obtain ⟨target, needed, arranged⟩ := Run.ok_of_bind arranged
    have targets : ∀ t ∈ [target],
        i.terms.stopPrice = some t ∨ i.terms.takeProfitPrice = some t :=
      fun t mem => .inr (List.mem_singleton.mp mem ▸ of_need needed)
    split at arranged <;> cases arranged
    · exact ⟨rfl, rfl, rfl, limited, targets, fun _ => type⟩
    · exact ⟨rfl, rfl, rfl, unlimited, targets, fun _ => type⟩
  case h_6 =>
    obtain ⟨distance, needed, arranged⟩ := Run.ok_of_bind arranged
    split at arranged <;> cases arranged <;>
      exact ⟨rfl, rfl, rfl, unlimited, untriggered, fun some => (nomatch some)⟩
  case h_7 => cases arranged
  case h_8 => cases arranged

/-- A take-profit order with a limit can be put into the venue's words. -/
theorem arguments_takeProfit {p : Payload} {x : Float} (h : i.type = OrderType.takeProfit.name)
    (target : i.terms.takeProfitPrice = some p) (limit : i.price = some x)
    (positive : 0.0 < x) :
    i.arguments slug
      = .ok (.limit, some x, { i.commonExtras with takeProfitPrice := some p }) := by
  have nonzero : (some x).any (fun p => !(p == 0.0)) = true := by
    rw [Option.any_some, Number.beq_zero_of_pos positive]
    rfl
  unfold arguments
  rw [h, target, limit]
  simp only [ofName?_upper_name, need, nonzero, if_true]
  rfl

end Instruction

/-- The markets that are loaded are those that the venue lists. -/
theorem Line.of_fetchMarkets {s t : Session} {markets : List Market}
    (h : fetchMarkets s = (.ok markets, t)) :
    ∃ listing, Market.readAll s.venue.precision s.venue.markets = .ok listing
      ∧ markets = listing.map Prod.snd := by
  have asked : Keeps Session.Reads (call .loadMarkets .loadMarkets).run :=
    keeps_call fun _ => rfl
  rcases asked.of_bind h with ⟨_, -, wrong, -⟩ | ⟨_, s₁, -, reads, h⟩
  · cases wrong
  rw [Run.get_bind, reads.venue] at h
  obtain ⟨listing, s₂, read, h⟩ := Run.of_bind_ok h
  obtain ⟨_, s₃, -, h⟩ := Run.of_bind_ok h
  cases h
  exact ⟨listing, congrArg Prod.fst read, rfl⟩

/-! ## The market for a symbol -/

namespace Floor

variable {f g : Floor}

/-- **The market for a symbol**, by what a venue lists. -/
def marketOf? (f : Floor) (slug symbol : String) : Option Market :=
  match Market.readAll (f.script slug).precision (f.script slug).markets with
  | .ok listing => (listing.map Prod.snd).find? (·.symbol.isText symbol)
  | .error _ => none

/-- The market does not change while one only asks. -/
theorem Reads.marketOf? (reads : f.Reads g) (slug symbol : String) :
    g.marketOf? slug symbol = f.marketOf? slug symbol := by
  unfold Floor.marketOf?
  rw [reads.script slug]

/-- The market for a symbol is among those that are loaded. -/
theorem marketOf?_of_fetchMarkets {ctx : Context} {markets : List Market}
    (h : speak ctx Line.fetchMarkets f = (.ok markets, g)) (symbol : String) :
    f.marketOf? ctx.slug symbol = markets.find? (·.symbol.isText symbol) := by
  obtain ⟨outcome, f₁, spoken, h⟩ := Run.of_bind_ok h
  cases outcome with
  | error e => cases h
  | ok loaded =>
    cases h
    have ran : (Line.fetchMarkets (f.session ctx.slug ctx.user)).1 = .ok markets :=
      Except.ok.inj (congrArg Prod.fst spoken)
    rcases loading : Line.fetchMarkets (f.session ctx.slug ctx.user) with ⟨r, s⟩
    rw [loading] at ran
    cases ran
    obtain ⟨listing, listed, rfl⟩ := Line.of_fetchMarkets loading
    change Market.readAll (f.script ctx.slug).precision (f.script ctx.slug).markets = _ at listed
    unfold marketOf?
    rw [listed]

end Floor

/-! ## Orders that pass -/

namespace Venue

/-- What is known of a venue is in the table, or assumed. -/
theorem support_mem (slug : String) :
    support slug ∈ defaultSupport :: supportTable.map Prod.snd := by
  unfold support
  cases found : supportTable.lookup slug with
  | none => exact List.mem_cons_self ..
  | some s =>
    obtain ⟨before, after, split, -⟩ := List.lookup_eq_some_iff.mp found
    refine List.mem_cons_of_mem _ (List.mem_map.mpr ⟨(slug, s), ?_, rfl⟩)
    rw [split]
    exact List.mem_append_right _ (List.mem_cons_self ..)

/-- Every venue takes market orders and limit orders, and stop orders when it takes pairs. -/
theorem supports_basic (slug : String) :
    supports slug .market = true ∧ supports slug .limit = true
      ∧ (supports slug .oco = true → supports slug .stopLoss = true) := by
  have all : ∀ s ∈ defaultSupport :: supportTable.map Prod.snd,
      s.types.contains .market = true ∧ s.types.contains .limit = true
        ∧ (s.types.contains .oco = true → s.types.contains .stopLoss = true) := by
    decide
  exact all _ (support_mem slug)

end Venue

namespace OrderRequest

/-- **An order passes as the one that was asked for**: the venue takes orders of its type,
and the market takes its amount and its limit, when the steps are numbers. A price at which
it becomes active is above zero, and when the order was measured at it, it floors to one that
the market takes. -/
structure Passes (r : OrderRequest) (slug : String) (m : Market) (order : Submission) : Prop where
  supported : Venue.supports slug r.type = true
  /-- It is an order of the type. -/
  shaped : ∃ leg : Leg, leg.venueType = r.type
    ∧ (leg.instruction order.symbol).shape slug = .ok order
  side : order.side = Text.lower r.side.name
  amount : m.amountStep.all Step.isNumber = true → m.FitsAmount order.amount
  limit : ∀ x, order.price = some x → m.priceStep.all Step.isNumber = true → m.FitsPrice x
  triggers : ∀ t ∈ order.triggers, ∃ x, t = .real x ∧ 0.0 < x
  /-- The price that an order without a limit was measured at. -/
  measured : ∀ x, .real x ∈ order.triggers → r.price = none → r.reference none = some x →
    ∃ y, Number.floorToStep x m.priceStep = .ok y
      ∧ (m.priceStep.all Step.isNumber = true → m.FitsPrice y)

/-- **A measured order passes** that is sent with the amount and the limit that the market
takes, and with triggers above zero. -/
theorem Measured.passes {r : OrderRequest} {slug symbol : String} {m : Market}
    {v : ValidatedOrder} {leg : Leg} {order : Submission} (h : r.Measured m v)
    (supported : Venue.supports slug r.type = true) (type : leg.venueType = r.type)
    (side : leg.side = r.side) (quantity : leg.quantity = v.quantity)
    (price : ∀ x, leg.price = some x → v.price = some x)
    (shaped : (leg.instruction symbol).shape slug = .ok order)
    (triggers : ∀ t ∈ order.triggers, ∃ x, t = .real x ∧ 0.0 < x) :
    order.symbol = symbol ∧ r.Passes slug m order := by
  have conveys := Instruction.conveys_of_shape shaped
  obtain rfl : order.symbol = symbol := conveys.symbol
  refine ⟨rfl, supported, ⟨leg, type, shaped⟩, ?_, ?_, ?_, triggers,
    fun x _ => h.reference x⟩
  · rw [conveys.side, show (leg.instruction order.symbol).side = leg.side.name from rfl, side]
  · rw [conveys.amount, show (leg.instruction order.symbol).quantity = _ from quantity]
    exact h.amount
  · exact fun x isLimit => h.limit x (price x (conveys.price x isLimit))

/-- **A request passes on a floor** as an order to a venue, by what the venue lists there. -/
def PassesOn (r : OrderRequest) (f : Floor) (slug : String) (order : Submission) : Prop :=
  ∃ m, f.marketOf? slug order.symbol = some m ∧ r.Passes slug m order

/-- **A protective order** for a request whose entry stands for a quantity: a stop at the
stop-loss price, or a limit order that becomes active at its take-profit price, on the other
side and for the whole quantity. -/
inductive Protects (r : OrderRequest) (quantity : Float) : Submission → Prop where
  | stop {symbol : String} {id : Option Payload} {x : Float}
      (price : r.stopLossPrice = some x) (positive : 0.0 < x) :
      Protects r quantity
        { symbol := symbol
          execution := .market
          side := Text.lower r.side.opposite.name
          amount := quantity
          price := none
          extras := { clientOrderId := id, stopLossPrice := some (.real x) } }
  | profit {symbol : String} {id : Option Payload} {x : Float}
      (price : r.takeProfitPrice = some x) (positive : 0.0 < x) :
      Protects r quantity
        { symbol := symbol
          execution := .limit
          side := Text.lower r.side.opposite.name
          amount := quantity
          price := some x
          extras := { clientOrderId := id, takeProfitPrice := some (.real x) } }

end OrderRequest

/-! ## Legs -/

namespace Desk

/-- The halves of a positive request are positive. -/
theorem isPositive_profitRequest {r : OrderRequest} (h : r.IsPositive) :
    (profitRequest r).IsPositive :=
  ⟨h.quantity, h.takeProfitPrice, fun _ none => (nomatch none), h.takeProfitPrice,
    h.stopLossPrice⟩

theorem isPositive_stopRequest {r : OrderRequest} (h : r.IsPositive) :
    (stopRequest r).IsPositive :=
  ⟨h.quantity, fun _ none => (nomatch none), h.stopLossPrice, h.takeProfitPrice,
    h.stopLossPrice⟩

/-- The triggers that a leg is sent with are its own. -/
theorem triggers_pos {leg : Leg} {slug symbol : String} {order : Submission}
    (stop : ∀ x, leg.stopPrice = some x → 0.0 < x)
    (target : ∀ x, leg.takeProfitPrice = some x → 0.0 < x)
    (shaped : (leg.instruction symbol).shape slug = .ok order) :
    ∀ t ∈ order.triggers, ∃ x, t = .real x ∧ 0.0 < x := by
  intro t mem
  rcases (Instruction.conveys_of_shape shaped).triggers t mem with isStop | isTarget
  · obtain ⟨x, given, rfl⟩ := Option.map_eq_some_iff.mp isStop
    exact ⟨x, rfl, stop x given⟩
  · obtain ⟨x, given, rfl⟩ := Option.map_eq_some_iff.mp isTarget
    exact ⟨x, rfl, target x given⟩

section

variable {r : OrderRequest} {slug symbol clientId : String} {m : Market} {v : ValidatedOrder}
  {order : Submission}

/-- **The take-profit half of a pair** is shaped to an order that passes. -/
theorem passes_profitLeg (h : (profitRequest r).Measured m v)
    (shaped : ((profitLeg r v clientId).instruction symbol).shape slug = .ok order) :
    order.symbol = symbol ∧ (profitRequest r).Passes slug m order := by
  refine h.passes (Venue.supports_basic slug).2.1 rfl rfl rfl (fun _ same => same) shaped ?_
  -- a limit order has no trigger
  rw [Instruction.shape, Run.bind_of_ok (Instruction.arguments_limit rfl) rfl] at shaped
  cases shaped
  exact fun _ none => (nomatch none)

variable (positive : r.IsPositive)

include positive

/-- **The leg of a measured single order** is shaped to an order that passes. -/
theorem passes_singleLeg (supported : Venue.supports slug r.type = true) (h : r.Measured m v)
    (shaped : ((singleLeg r v clientId).instruction symbol).shape slug = .ok order) :
    order.symbol = symbol ∧ r.Passes slug m order := by
  refine h.passes supported rfl rfl rfl (fun _ same => same) shaped ?_
  refine triggers_pos positive.stopPrice (fun x given => ?_) shaped
  change (if r.type == .takeProfit then r.takeProfitPrice else none) = some x at given
  split at given
  · exact positive.takeProfitPrice x given
  · cases given

/-- **The stop-loss half of a pair** is shaped to an order that passes. -/
theorem passes_stopLeg (supported : Venue.supports slug .oco = true)
    (h : (stopRequest r).Measured m v)
    (shaped : ((stopLeg r v clientId).instruction symbol).shape slug = .ok order) :
    order.symbol = symbol ∧ (stopRequest r).Passes slug m order := by
  refine h.passes ((Venue.supports_basic slug).2.2 supported) rfl rfl rfl
    (fun x (none : none = some x) => (nomatch none)) shaped ?_
  refine triggers_pos (fun x given => ?_) (fun x (none : none = some x) => (nomatch none)) shaped
  have unpriced : v.price = none := by
    have asked := h.asked
    rwa [show (stopRequest r).price = none from rfl, Option.isSome_none,
      Option.isSome_eq_false_iff, Option.isNone_iff_eq_none] at asked
  change v.referencePrice = some x at given
  rw [h.reckoned, unpriced] at given
  exact (isPositive_stopRequest positive).reference given

end

/-- **What is handed to the line for a protective order** is shaped to one. -/
theorem protects_of_shape {r : OrderRequest} {quantity x : Float} {slug symbol id : String}
    {order : Submission} (positive : 0.0 < x) :
    (r.stopLossPrice = some x →
      ((stopProtection r.side.opposite quantity x id).instruction symbol).shape slug = .ok order →
      r.Protects quantity order)
    ∧ (r.takeProfitPrice = some x →
      ((profitProtection r.side.opposite quantity x id).instruction symbol).shape slug = .ok order →
      r.Protects quantity order) := by
  constructor
  · intro price shaped
    rw [Instruction.shape, Run.bind_of_ok (Instruction.arguments_stopLoss rfl rfl) rfl] at shaped
    cases shaped
    exact .stop price positive
  · intro price shaped
    rw [Instruction.shape,
      Run.bind_of_ok (Instruction.arguments_takeProfit rfl rfl rfl positive) rfl] at shaped
    cases shaped
    exact .profit price positive

end Desk

end OrderDesk

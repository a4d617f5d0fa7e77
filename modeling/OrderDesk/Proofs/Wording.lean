import OrderDesk.Proofs.Protecting
import OrderDesk.Proofs.Reflecting

/-!
# How a request is put to a venue

A request passes through four hands before a venue hears of it. It is checked for the fields
that its type needs, a leg is made of it, the terms of the leg are stated by name, and the
names are put into the venue's words. Each hand has its own table of what an order of a type
has, and the last one fails for want of a term that an earlier one left out. Nothing makes
the tables agree but what is written in them.

They do agree. `OrderRequest.Put` says by type what a venue is asked for, in terms of what was
requested alone, and `Leg.Carries` what a leg has to have for it. The leg of a single order and
both legs of a pair carry their requests, so that of a complete and valid request each is put
into the venue's words, and into these.
-/

namespace OrderDesk

/-! ## What is asked of a venue -/

/-- **A limit is the price that was asked for**, floored to the step of the market, if one
was asked for. -/
inductive Market.Floors (m : Market) : Option Float → Option Float → Prop where
  | absent : Floors m none none
  | present {p x : Float} (floored : Number.floorToStep p m.priceStep = .ok x) :
      Floors m (some p) (some x)

/-- There is a limit exactly when a price was asked for. -/
theorem Market.Floors.isSome {m : Market} {asked limit : Option Float}
    (h : m.Floors asked limit) : limit.isSome = asked.isSome := by
  cases h <;> rfl

namespace OrderRequest

/-- What orders of every type are given: an identifier, and the time in force if there is
one. -/
def plainExtras (r : OrderRequest) (clientId : String) : Extras where
  clientOrderId := some (.text clientId)
  timeInForce := r.timeInForce.map fun t => .text t.name

/-- **How a request is put to a venue**, by its type: as which kind of order, with which limit,
and with which arguments beside those that every order is given. -/
inductive Put (r : OrderRequest) (limit : Option Float) (given : Extras) :
    Execution → Option Float → Extras → Prop where
  | market (type : r.type = .market) : Put r limit given .market none given
  | limit {x : Float} (type : r.type = .limit) (limited : limit = some x) :
      Put r limit given .limit (some x) given
  | stopLoss {stop : Float} (type : r.type = .stopLoss) (asked : r.stopPrice = some stop) :
      Put r limit given .market none { given with stopLossPrice := some (.real stop) }
  | stopLimit {x stop : Float} (type : r.type = .stopLimit) (limited : limit = some x)
      (asked : r.stopPrice = some stop) :
      Put r limit given .limit (some x) { given with triggerPrice := some (.real stop) }
  | trailingPercent {distance : Float} (type : r.type = .trailingStop)
      (unit : r.trailingType = some .percentage) (asked : r.trailingAmount = some distance) :
      Put r limit given .market none { given with trailingPercent := some (.real distance) }
  | trailingAmount {distance : Float} (type : r.type = .trailingStop)
      (unit : r.trailingType = some .amount) (asked : r.trailingAmount = some distance) :
      Put r limit given .market none { given with trailingAmount := some (.real distance) }
  | takeProfitAtMarket {target : Float} (type : r.type = .takeProfit) (unlimited : limit = none)
      (asked : r.takeProfitPrice = some target) :
      Put r limit given .market none { given with takeProfitPrice := some (.real target) }
  | takeProfitAtLimit {x target : Float} (type : r.type = .takeProfit) (limited : limit = some x)
      (asked : r.takeProfitPrice = some target) :
      Put r limit given .limit (some x) { given with takeProfitPrice := some (.real target) }

/-- **A venue is asked for an order**, for a request that was found valid and under an
identifier. -/
structure AskedAs (r : OrderRequest) (v : ValidatedOrder) (symbol clientId : String)
    (order : Submission) : Prop where
  symbol : order.symbol = symbol
  /-- The side is in lower case. -/
  side : order.side = Text.lower r.side.name
  /-- The amount is that of the validation. -/
  amount : order.amount = v.quantity
  /-- The identifier is not empty. -/
  named : clientId ≠ ""
  /-- The limit is what the price that was asked for floors to. -/
  floors : v.market.Floors r.price v.price
  put : r.Put v.price (r.plainExtras clientId) order.execution order.price order.extras

/-- **The identifier of an order**: the one that the caller gave, or one that is made up when
so many were made up before. -/
def idAfter (r : OrderRequest) (made : Nat) : String :=
  (r.clientId.filter (!·.isEmpty)).getD (Desk.madeUpId (made + 1))

variable {r : OrderRequest} {symbol : String} {markets : List Market} {v : ValidatedOrder}

/-- A valid request has the price that was asked for as its limit. -/
theorem floors_of_validate (positive : r.IsPositive) (h : r.validate symbol markets = .ok v) :
    v.market.Floors r.price v.price := by
  rcases of_checkedPrice (checks_of_validate h).limit with
    ⟨asked, is⟩ | ⟨p, x, asked, checked, is⟩ <;> rw [asked, is]
  · exact .absent
  · exact .present (Market.fits_of_checkPrice (positive.price p asked) checked).1

/-- An identifier is never empty. -/
theorem idAfter_ne_empty (r : OrderRequest) (made : Nat) : r.idAfter made ≠ "" := by
  unfold idAfter
  cases given : r.clientId.filter (!·.isEmpty) with
  | some id =>
    have isText : (!id.isEmpty) = true := (Option.filter_eq_some_iff.mp given).2
    rintro rfl
    cases isText
  | none =>
    intro empty
    have isText := Desk.isPresent_madeUpId (made + 1)
    rw [show Desk.madeUpId (made + 1) = "" from empty] at isText
    cases isText

/-- It is not empty with a suffix either. -/
theorem idAfter_append_ne_empty (r : OrderRequest) (made : Nat) (suffix : String) :
    r.idAfter made ++ suffix ≠ "" := by
  intro empty
  exact idAfter_ne_empty r made (String.append_eq_empty_iff.mp empty).1

end OrderRequest

/-! ## Legs -/

namespace Leg

/-- **A leg carries a request** that was found valid: it has what an order of the type is put
with. -/
structure Carries (leg : Leg) (r : OrderRequest) (v : ValidatedOrder) : Prop where
  type : leg.venueType = r.type
  side : leg.side = r.side
  quantity : leg.quantity = v.quantity
  price : leg.price = v.price
  timeInForce : leg.timeInForce = r.timeInForce
  stop : leg.stopPrice = r.stopPrice
  target : r.type = .takeProfit → leg.takeProfitPrice = r.takeProfitPrice
  trailing : r.type = .trailingStop →
    leg.trailingAmount = r.trailingAmount ∧ leg.trailingType = r.trailingType

variable {leg : Leg} {r : OrderRequest} {v : ValidatedOrder}

/-- A leg is given its identifier and its time in force. -/
theorem Carries.commonExtras (h : leg.Carries r v) (named : leg.clientId ≠ "")
    (symbol : String) :
    (leg.instruction symbol).commonExtras = r.plainExtras leg.clientId := by
  have isText : (Payload.text leg.clientId).isPresent = true := by
    show (!leg.clientId.isEmpty) = true
    simpa using named
  have id : (some (Payload.text leg.clientId)).filter Payload.isPresent
      = some (.text leg.clientId) := by
    rw [Option.filter_some, if_pos isText]
  have inForce : (leg.timeInForce.map fun t => Payload.text t.name).filter Payload.isPresent
      = r.timeInForce.map fun t => .text t.name := by
    rw [h.timeInForce]
    cases r.timeInForce with
    | none => rfl
    | some t => cases t <;> rfl
  show ({ clientOrderId := (some (Payload.text leg.clientId)).filter _
          timeInForce := (leg.timeInForce.map fun t => Payload.text t.name).filter _ } : Extras) = _
  rw [id, inForce]
  rfl

/-- A number that is asked for is stated as a term of a leg that has it. -/
theorem exists_term {term asked : Option Float} (same : term = asked)
    (isAsked : asked.isSome = true) :
    ∃ x, asked = some x ∧ term.map Payload.real = some (.real x) := by
  obtain ⟨x, is⟩ := Option.isSome_iff_exists.mp isAsked
  refine ⟨x, is, ?_⟩
  rw [same, is]
  rfl

/-- **The leg of a complete request is put into the venue's words**: no term that its type
needs is missing. -/
theorem Carries.arguments (h : leg.Carries r v) (complete : r.IsComplete)
    (single : r.type ≠ .oco) (named : leg.clientId ≠ "") (floors : v.market.Floors r.price v.price)
    (limited : OrderRequest.stated v.price = v.price) (slug symbol : String) :
    ∃ execution price extras,
      (leg.instruction symbol).arguments slug = .ok (execution, price, extras)
      ∧ r.Put v.price (r.plainExtras leg.clientId) execution price extras := by
  have isType : (Vocabulary.ofName? (Text.upper (leg.instruction symbol).type) : Option OrderType)
      = some r.type := h.type ▸ Instruction.ofName?_upper_name leg.venueType
  have isPrice : (leg.instruction symbol).price = v.price := h.price
  have limit : r.price.isSome = true → ∃ x, v.price = some x := fun asked =>
    Option.isSome_iff_exists.mp (floors.isSome.trans asked)
  unfold Instruction.arguments
  dsimp only
  rw [isType, isPrice, h.commonExtras named]
  -- one case for each type, with the terms that the type needs
  cases type : r.type with
  | market => exact ⟨_, _, _, rfl, .market type⟩
  | limit =>
    obtain ⟨x, is⟩ := limit (complete.price (.inl type))
    rw [is]
    exact ⟨_, _, _, rfl, .limit type rfl⟩
  | stopLoss =>
    obtain ⟨stop, asked, term⟩ := exists_term h.stop (complete.stop (.inl type))
    rw [show (leg.instruction symbol).terms.stopPrice = _ from term]
    exact ⟨_, _, _, rfl, .stopLoss type asked⟩
  | stopLimit =>
    obtain ⟨x, is⟩ := limit (complete.price (.inr type))
    obtain ⟨stop, asked, term⟩ := exists_term h.stop (complete.stop (.inr type))
    rw [is, show (leg.instruction symbol).terms.stopPrice = _ from term]
    exact ⟨_, _, _, rfl, .stopLimit type rfl asked⟩
  | takeProfit =>
    obtain ⟨target, asked, term⟩ := exists_term (h.target type) (complete.target type)
    rw [show (leg.instruction symbol).terms.takeProfitPrice = _ from term]
    -- a limit of zero would be left out, but there is none
    have any := OrderRequest.any_of_stated limited
    cases is : v.price with
    | none => exact ⟨_, _, _, rfl, .takeProfitAtMarket type rfl asked⟩
    | some x =>
      rw [is] at any
      rw [any]
      exact ⟨_, _, _, rfl, .takeProfitAtLimit type rfl asked⟩
  | trailingStop =>
    obtain ⟨amount, unit⟩ := h.trailing type
    obtain ⟨distance, asked, term⟩ := exists_term amount (complete.trailing type).1
    obtain ⟨kind, inUnit⟩ := Option.isSome_iff_exists.mp (complete.trailing type).2
    have isUnit : (leg.instruction symbol).terms.trailingType = some (.text kind.name) := by
      show (leg.trailingType.map fun t => Payload.text t.name) = _
      rw [unit, inUnit]
      rfl
    rw [show (leg.instruction symbol).terms.trailingAmount = _ from term, isUnit]
    cases kind with
    | percentage => exact ⟨_, _, _, rfl, .trailingPercent type inUnit asked⟩
    | amount => exact ⟨_, _, _, rfl, .trailingAmount type inUnit asked⟩
  | oco => exact absurd type single

/-- **The venue is asked for what the leg carries.** -/
theorem Carries.shape (h : leg.Carries r v) (complete : r.IsComplete) (single : r.type ≠ .oco)
    (named : leg.clientId ≠ "") (floors : v.market.Floors r.price v.price)
    (limited : OrderRequest.stated v.price = v.price) (ctx : Context) :
    ∃ order, Desk.ShapedAs ctx leg order ∧ r.AskedAs v ctx.symbol leg.clientId order := by
  obtain ⟨execution, price, extras, arranged, put⟩ :=
    h.arguments complete single named floors limited ctx.slug ctx.symbol
  refine ⟨_, Run.bind_of_ok arranged rfl, rfl, ?_, h.quantity, named, floors, put⟩
  show Text.lower leg.side.name = _
  rw [h.side]

end Leg

namespace Desk

/-- The stop-loss half of a request as it is put to a venue, which is without a time in
force. -/
def untimedStop (r : OrderRequest) : OrderRequest := { stopRequest r with timeInForce := none }

section

variable {r : OrderRequest} {v : ValidatedOrder} {clientId : String}

theorem carries_singleLeg (r : OrderRequest) (v : ValidatedOrder) (clientId : String) :
    (singleLeg r v clientId).Carries r v where
  type := rfl
  side := rfl
  quantity := rfl
  price := rfl
  timeInForce := rfl
  stop := rfl
  target is := if_pos (beq_iff_eq.mpr is)
  trailing _ := ⟨rfl, rfl⟩

theorem carries_profitLeg (r : OrderRequest) (v : ValidatedOrder) (clientId : String) :
    (profitLeg r v clientId).Carries (profitRequest r) v where
  type := rfl
  side := rfl
  quantity := rfl
  price := rfl
  timeInForce := rfl
  stop := rfl
  target := nofun
  trailing := nofun

theorem carries_stopLeg (unlimited : v.price = none) (reckoned : v.referencePrice = r.stopLossPrice) :
    (stopLeg r v clientId).Carries (untimedStop r) v where
  type := rfl
  side := rfl
  quantity := rfl
  price := unlimited.symm
  timeInForce := rfl
  stop := reckoned
  target := nofun
  trailing := nofun

/-- The halves of a complete pair are complete. -/
theorem isComplete_profitRequest (h : r.IsComplete) (pair : r.type = .oco) :
    (profitRequest r).IsComplete where
  price _ := (h.targets pair).1
  stop is := is.elim nofun nofun
  trailing := nofun
  target := nofun
  targets := nofun

theorem isComplete_untimedStop (h : r.IsComplete) (pair : r.type = .oco) :
    (untimedStop r).IsComplete where
  price is := is.elim nofun nofun
  stop _ := (h.targets pair).2
  trailing := nofun
  target := nofun
  targets := nofun

variable {ctx : Context} {markets : List Market} (positive : r.IsPositive)
  (complete : r.IsComplete) (made : Nat)

include positive complete

/-- **A single order** is put into the venue's words. -/
theorem shaped_singleLeg (single : r.type ≠ .oco)
    (valid : r.validate ctx.symbol markets = .ok v) :
    ∃ order, ShapedAs ctx (singleLeg r v (r.idAfter made)) order
      ∧ r.AskedAs v ctx.symbol (r.idAfter made) order :=
  (carries_singleLeg r v _).shape complete single (r.idAfter_ne_empty made)
    (OrderRequest.floors_of_validate positive valid)
    (OrderRequest.checks_of_validate valid).stated_price ctx

/-- **The take-profit half of a pair** is put into the venue's words. -/
theorem shaped_profitLeg (pair : r.type = .oco)
    (valid : (profitRequest r).validate ctx.symbol markets = .ok v) :
    ∃ order, ShapedAs ctx (profitLeg r v (r.idAfter made)) order
      ∧ (profitRequest r).AskedAs v ctx.symbol (r.idAfter made ++ "-tp") order :=
  (carries_profitLeg r v _).shape (isComplete_profitRequest complete pair) nofun
    (r.idAfter_append_ne_empty made _)
    (OrderRequest.floors_of_validate (isPositive_profitRequest positive) valid)
    (OrderRequest.checks_of_validate valid).stated_price ctx

/-- **The stop-loss half of a pair** is put into the venue's words: what it was reckoned at is
the price at which it becomes active. -/
theorem shaped_stopLeg (pair : r.type = .oco)
    (valid : (stopRequest r).validate ctx.symbol markets = .ok v) :
    ∃ order, ShapedAs ctx (stopLeg r v (r.idAfter made)) order
      ∧ (untimedStop r).AskedAs v ctx.symbol (r.idAfter made ++ "-sl") order := by
  have checks := OrderRequest.checks_of_validate valid
  have floors := OrderRequest.floors_of_validate (isPositive_stopRequest positive) valid
  have unlimited : v.price = none := by
    rw [← Option.isNone_iff_eq_none, ← Option.isSome_eq_false_iff, floors.isSome]
    rfl
  have reckoned : v.referencePrice = r.stopLossPrice := by
    obtain ⟨stop, asked⟩ := Option.isSome_iff_exists.mp (complete.targets pair).2
    rw [checks.reference_eq (isPositive_stopRequest positive), unlimited]
    show (none <|> r.stopLossPrice <|> r.takeProfitPrice) = _
    rw [asked]
    rfl
  exact (carries_stopLeg unlimited reckoned).shape (isComplete_untimedStop complete pair) nofun
    (r.idAfter_append_ne_empty made _) floors checks.stated_price ctx

end

end Desk

end OrderDesk

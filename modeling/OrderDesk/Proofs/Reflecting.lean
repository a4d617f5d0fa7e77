import OrderDesk.Proofs.Recording
import OrderDesk.Proofs.Validating

/-!
# Where what is recorded is what was sent

A leg is the source of both, of the submission and of the row. But they take different things
from it. The submission is arranged by the type of the order: a stop order is sent with its
stop price, a trailing stop with its distance, a limit order with its limit, and whatever else
the leg has is left out. The row takes all that the leg has, whatever the type is.

So the two agree as far as the leg has nothing that its type leaves out. The legs of a pair
and those of a protection are made up so; the leg of a single order is made up of what the
request states, which may be anything. A market order with a stop price is the plainest case:
the venue is sent an order at market, and the row says that it waits for a price.
`Order.IsPlain` is the condition, and it is exact.
-/

namespace OrderDesk

/-! ## What is sent -/

namespace OrderType

/-- Orders of the type are sent with a price at which they become active as a stop. -/
def hasStop : OrderType → Bool
  | stopLoss | stopLimit => true
  | _ => false

/-- Orders of the type are sent with a limit. -/
def hasLimit : OrderType → Bool
  | limit | stopLimit | takeProfit => true
  | _ => false

end OrderType

namespace Submission

/-- The price at which the order becomes active as a stop, under either of its names. -/
def stop (order : Submission) : Option Payload :=
  order.extras.stopLossPrice <|> order.extras.triggerPrice

/-- The trailing distance, and what it is measured in. -/
def distance (order : Submission) : Option (Payload × TrailingType) :=
  order.extras.trailingPercent.map (·, .percentage)
    <|> order.extras.trailingAmount.map (·, .amount)

end Submission

/-- **What a leg is sent as**: of its terms, those that its type takes. -/
structure Leg.SentAs (leg : Leg) (order : Submission) : Prop where
  timeInForce : order.extras.timeInForce = leg.timeInForce.map (.text ·.name)
  stop : order.stop = if leg.venueType.hasStop then leg.stopPrice.map .real else none
  distance : order.distance = if leg.venueType = .trailingStop then
      leg.trailingAmount.map fun x =>
        (.real x, if leg.trailingType = some .percentage then .percentage else .amount)
    else none
  price : order.price = if leg.venueType.hasLimit then leg.price else none
  /-- A trailing stop is not sent without a distance. -/
  trails : leg.venueType = .trailingStop → leg.trailingAmount.isSome = true

/-- A number that counts as given is not zero. -/
theorem OrderRequest.any_of_stated {x : Option Float} (h : stated x = x) :
    x.any (fun v => !(v == 0.0)) = x.isSome := by
  cases x with
  | none => rfl
  | some v =>
    have nonzero : (!(v == 0.0)) = true := (Option.filter_eq_some_iff.mp h).2
    rw [Option.any_some, nonzero]
    rfl

/-- **Shaping sends a leg** with the terms that its type takes. -/
theorem Leg.sentAs_of_shape {leg : Leg} {slug symbol : String} {order : Submission}
    (limited : OrderRequest.stated leg.price = leg.price)
    (h : (leg.instruction symbol).shape slug = .ok order) : leg.SentAs order := by
  obtain ⟨⟨execution, price, extras⟩, arranged, h⟩ := Run.ok_of_bind h
  cases h
  have named : (Vocabulary.ofName? (Text.upper (leg.instruction symbol).type) : Option OrderType)
      = some leg.venueType := Instruction.ofName?_upper_name leg.venueType
  have inForce : (leg.instruction symbol).commonExtras.timeInForce
      = leg.timeInForce.map (.text ·.name) := by
    show (leg.timeInForce.map fun t => Payload.text t.name).filter Payload.isPresent = _
    cases leg.timeInForce with
    | none => rfl
    | some t => cases t <;> rfl
  unfold Instruction.arguments at arranged
  dsimp only at arranged
  rw [named] at arranged
  have other : ∀ {type}, leg.venueType = type → type ≠ .trailingStop →
      leg.venueType = .trailingStop → leg.trailingAmount.isSome = true :=
    fun is apart trailing => absurd (is.symm.trans trailing) apart
  -- one case for each type; a type that needs a term has it
  cases type : leg.venueType <;> rw [type] at arranged
  case market =>
    cases arranged
    exact ⟨inForce, by rw [type]; rfl, by rw [type]; rfl, by rw [type]; rfl,
      other type (by decide)⟩
  case limit =>
    cases arranged
    exact ⟨inForce, by rw [type]; rfl, by rw [type]; rfl, by rw [type]; rfl,
      other type (by decide)⟩
  case stopLoss | stopLimit =>
    obtain ⟨stop, needed, arranged⟩ := Run.ok_of_bind arranged
    have given : leg.stopPrice.map Payload.real = some stop := Instruction.of_need needed
    cases arranged
    exact ⟨inForce, by rw [type, given]; rfl, by rw [type]; rfl, by rw [type]; rfl,
      other type (by decide)⟩
  case takeProfit =>
    obtain ⟨target, -, arranged⟩ := Run.ok_of_bind arranged
    -- a limit of zero would be left out, but it counts as none
    change Except.ok (if leg.price.any (fun p => !(p == 0.0)) then _ else _) = _ at arranged
    rw [OrderRequest.any_of_stated limited] at arranged
    cases priced : leg.price <;> rw [priced] at arranged <;> cases arranged
    · exact ⟨inForce, by rw [type]; rfl, by rw [type]; rfl, by rw [type, priced]; rfl,
        other type (by decide)⟩
    · exact ⟨inForce, by rw [type]; rfl, by rw [type]; rfl, by rw [type]; rfl,
        other type (by decide)⟩
  case trailingStop =>
    obtain ⟨distance, needed, arranged⟩ := Run.ok_of_bind arranged
    obtain ⟨amount, given, rfl⟩ := Option.map_eq_some_iff.mp (Instruction.of_need needed)
    replace given : leg.trailingAmount = some amount := given
    have unit : (leg.instruction symbol).terms.trailingType.any
        (Payload.isText · TrailingType.percentage.name)
        = decide (leg.trailingType = some .percentage) := by
      show (leg.trailingType.map fun t => Payload.text t.name).any _ = _
      cases leg.trailingType with
      | none => rfl
      | some t => cases t <;> decide
    rw [unit] at arranged
    by_cases percentage : leg.trailingType = some .percentage
    · rw [decide_eq_true percentage] at arranged
      cases arranged
      exact ⟨inForce, by rw [type]; rfl, by rw [if_pos type, given, percentage]; rfl,
        by rw [type]; rfl, fun _ => by rw [given]; rfl⟩
    · rw [decide_eq_false percentage] at arranged
      cases arranged
      refine ⟨inForce, by rw [type]; rfl, ?_, by rw [type]; rfl, fun _ => by rw [given]; rfl⟩
      rw [if_pos type, given, if_neg percentage]
      rfl
  case oco => cases arranged

/-! ## What is recorded -/

/-- **A number on record is what was sent**, as the store keeps it: without an argument there is
none. -/
def IsSent (column : Option Float) (argument : Option Payload) : Prop :=
  ∃ x, argument = x.map .real ∧ column = Ticket.keptNumber x

namespace Order

/-- **A row reflects a submission**: its terms are those that were sent, and the price as well
when the venue reports none. -/
structure Reflects (row : Order) (x : Submission × Payload) : Prop where
  stopPrice : IsSent row.stopPrice x.1.stop
  trailingAmount : IsSent row.trailingAmount (x.1.distance.map Prod.fst)
  /-- What the distance is measured in is told by the name it was sent under. -/
  trailingType : row.trailingType = x.1.distance.map (·.2.name)
  timeInForce : x.1.extras.timeInForce = row.timeInForce.map .text
  price : ∀ ack, x.1.readAck x.2 = .ok ack → Booking.stated ack.price = none →
    row.price = Ticket.keptNumber x.1.price

/-- **A row is plain** for a type: it shows nothing that orders of the type are sent without. -/
structure IsPlain (row : Order) (type : OrderType) (x : Submission × Payload) : Prop where
  stopPrice : row.stopPrice.isSome = true → type.hasStop = true
  trailing : row.trailingAmount.isSome = true ∨ row.trailingType.isSome = true →
    type = .trailingStop
  price : ∀ ack, x.1.readAck x.2 = .ok ack → Booking.stated ack.price = none →
    row.price.isSome = true → type.hasLimit = true

end Order

/-- Nothing was sent, so nothing is on record. -/
theorem isSent_none_iff {column : Option Float} : IsSent column none ↔ column = none := by
  constructor
  · rintro ⟨x, absent, is⟩
    rw [Option.map_eq_none_iff.mp absent.symm] at is
    exact is
  · rintro rfl
    exact ⟨none, rfl, rfl⟩

/-- Without a price in the answer the limit is the price. -/
theorem Booking.either_of_unstated {x y : Option Float} (h : stated x = none) :
    either x y = y := by
  unfold stated either at *
  split at h
  · split at h
    · cases h
    · rw [if_neg ‹_›]
  · rfl

section

variable {ctx : Context} {leg : Leg} {marks : Leg.Marks} {row : Order}
  {x : Submission × Payload}

/-- **What a row shows of the leg that it records.** -/
structure Order.Shows (row : Order) (leg : Leg) (x : Submission × Payload) : Prop where
  type : row.type = leg.recordType.name
  stopPrice : row.stopPrice = Ticket.keptNumber leg.stopPrice
  trailingAmount : row.trailingAmount = Ticket.keptNumber leg.trailingAmount
  trailingType : row.trailingType = leg.trailingType.map TrailingType.name
  timeInForce : row.timeInForce = leg.timeInForce.map TimeInForce.name
  /-- The price is the limit when the venue reports none. -/
  price : ∀ ack, x.1.readAck x.2 = .ok ack → Booking.stated ack.price = none →
    row.price = Ticket.keptNumber leg.price

theorem Order.Records.shows (h : row.Records ctx leg marks x) : row.Shows leg x := by
  obtain ⟨ack, read, is, terms⟩ := h.acknowledged
  refine ⟨is.type, congrArg RecordedTerms.stopPrice terms,
    congrArg RecordedTerms.trailingAmount terms, congrArg RecordedTerms.trailingType terms,
    congrArg RecordedTerms.timeInForce terms, fun other isAck unreported => ?_⟩
  rw [read] at isAck
  cases isAck
  rw [← Booking.either_of_unstated (y := leg.price) unreported]
  exact congrArg RecordedTerms.price terms

variable (shows : row.Shows leg x) (sent : leg.SentAs x.1)

include shows sent

/-- The stop price on record is what was sent when orders of the type are sent with one. -/
theorem isSent_stop_iff : IsSent row.stopPrice x.1.stop
    ↔ (row.stopPrice.isSome = true → leg.venueType.hasStop = true) := by
  rw [sent.stop]
  cases takes : leg.venueType.hasStop with
  | true => exact iff_of_true ⟨leg.stopPrice, rfl, shows.stopPrice⟩ fun _ => rfl
  | false =>
    rw [if_neg Bool.false_ne_true, isSent_none_iff]
    cases row.stopPrice <;> simp

/-- The trailing distance on record is what was sent when the order is a trailing stop. -/
theorem isSent_distance_iff
    (unit : leg.venueType = .trailingStop → leg.trailingType.isSome = true) :
    (IsSent row.trailingAmount (x.1.distance.map Prod.fst)
      ∧ row.trailingType = x.1.distance.map (·.2.name))
    ↔ (row.trailingAmount.isSome = true ∨ row.trailingType.isSome = true →
        leg.venueType = .trailingStop) := by
  rw [sent.distance]
  by_cases takes : leg.venueType = .trailingStop
  · obtain ⟨amount, given⟩ := Option.isSome_iff_exists.mp (sent.trails takes)
    obtain ⟨kind, named⟩ := Option.isSome_iff_exists.mp (unit takes)
    rw [if_pos takes, shows.trailingAmount, shows.trailingType, given, named]
    refine iff_of_true ⟨⟨some amount, rfl, rfl⟩, ?_⟩ fun _ => takes
    cases kind <;> rfl
  · rw [if_neg takes, Option.map_none, Option.map_none, isSent_none_iff]
    cases row.trailingAmount <;> cases row.trailingType <;> simp [takes]

/-- The price on record is the limit that was sent when orders of the type are sent with one. -/
theorem price_sent_iff {ack : Ack} (read : x.1.readAck x.2 = .ok ack)
    (unreported : Booking.stated ack.price = none) :
    row.price = Ticket.keptNumber x.1.price
      ↔ (row.price.isSome = true → leg.venueType.hasLimit = true) := by
  rw [sent.price]
  cases takes : leg.venueType.hasLimit with
  | true => exact iff_of_true (shows.price ack read unreported) fun _ => rfl
  | false =>
    rw [if_neg Bool.false_ne_true]
    show row.price = none ↔ _
    cases row.price <;> simp

omit shows sent

/-- **A row reflects its submission exactly when it is plain.** -/
theorem Order.Records.reflects_iff (h : row.Records ctx leg marks x)
    (limited : OrderRequest.stated leg.price = leg.price)
    (unit : leg.venueType = .trailingStop → leg.trailingType.isSome = true) :
    row.Reflects x ↔ row.IsPlain leg.venueType x := by
  have sent := Leg.sentAs_of_shape limited h.shaped
  have inForce : x.1.extras.timeInForce = row.timeInForce.map .text := by
    rw [sent.timeInForce, h.shows.timeInForce, Option.map_map]
    rfl
  have stops := isSent_stop_iff h.shows sent
  have trails := isSent_distance_iff h.shows sent unit
  constructor
  · intro reflects
    exact ⟨stops.mp reflects.stopPrice,
      trails.mp ⟨reflects.trailingAmount, reflects.trailingType⟩,
      fun ack read unreported =>
        (price_sent_iff h.shows sent read unreported).mp (reflects.price ack read unreported)⟩
  · intro plain
    obtain ⟨amount, type⟩ := trails.mpr plain.trailing
    exact ⟨stops.mpr plain.stopPrice, amount, type, inForce, fun ack read unreported =>
      (price_sent_iff h.shows sent read unreported).mpr (plain.price ack read unreported)⟩

/-- What the store keeps was there. -/
theorem Ticket.isSome_of_keptNumber {y : Option Float} (h : (keptNumber y).isSome = true) :
    y.isSome = true := by
  cases y with
  | none => exact h
  | some _ => rfl

/-- **A leg that has nothing but what its type is sent with** has a row that reflects it. -/
theorem Order.Records.reflects (h : row.Records ctx leg marks x)
    (stop : leg.stopPrice.isSome = true → leg.venueType.hasStop = true)
    (amount : leg.trailingAmount = none) (type : leg.trailingType = none)
    (limit : leg.price.isSome = true → leg.venueType.hasLimit = true)
    (limited : OrderRequest.stated leg.price = leg.price)
    (straight : leg.venueType ≠ .trailingStop) : row.Reflects x := by
  have shows := h.shows
  refine (h.reflects_iff limited fun trailing => absurd trailing straight).mpr
    ⟨fun is => stop (Ticket.isSome_of_keptNumber (shows.stopPrice ▸ is)), ?_,
      fun ack read unreported is => limit
        (Ticket.isSome_of_keptNumber (shows.price ack read unreported ▸ is))⟩
  rw [shows.trailingAmount, shows.trailingType, amount, type]
  exact fun given => given.elim nofun nofun

end

/-! ## Placements -/

namespace OrderRequest

/-- A number that is stated stays so. -/
theorem stated_of_stated {x : Option Float} {y : Float} (h : stated x = some y) :
    stated (some y) = some y := by
  have nonzero : (!(y == 0.0)) = true := (Option.filter_eq_some_iff.mp h).2
  unfold stated
  rw [Option.filter_some, if_pos nonzero]

end OrderRequest

namespace Desk

variable {ref : Reference} {ctx : Context} {r : OrderRequest} {f g : Floor}

/-- What was made ready for a single order was checked. -/
theorem checks_of_prepareSingle {v : ValidatedOrder}
    {estimated : Option FeeEstimate × Option Float}
    (h : prepareSingle ref ctx r f = (.ok (v, estimated), g)) : r.Checks ctx.symbol v := by
  obtain ⟨markets, f₁, -, h⟩ := Run.of_bind_ok h
  obtain ⟨v', f₂, checked, h⟩ := Run.of_bind_ok h
  obtain ⟨estimate, f₃, -, h⟩ := Run.of_bind_ok h
  cases h
  exact OrderRequest.checks_of_validate (congrArg Prod.fst checked)

/-- What was made ready for a pair was checked. -/
theorem checks_of_prepareOco {profit stop : ValidatedOrder} {fee : Option FeeEstimate}
    (h : prepareOco ref ctx r f = (.ok (profit, stop, fee), g)) :
    (profitRequest r).Checks ctx.symbol profit := by
  obtain ⟨markets, f₁, -, h⟩ := Run.of_bind_ok h
  obtain ⟨profit', f₂, checked, h⟩ := Run.of_bind_ok h
  obtain ⟨stop', f₃, -, h⟩ := Run.of_bind_ok h
  obtain ⟨estimate, f₄, -, h⟩ := Run.of_bind_ok h
  cases h
  exact OrderRequest.checks_of_validate (congrArg Prod.fst checked)

/-- **The row of a protective order** reflects its submission. -/
theorem RecordsProtection.reflects {quantity : Float} {row : Order} {x : Submission × Payload}
    (h : RecordsProtection ctx r quantity row x) : row.Reflects x := by
  obtain ⟨leg, is, records⟩ := h
  cases is with
  | stop stated =>
    exact records.reflects (fun _ => rfl) rfl rfl nofun rfl nofun
  | profit stated =>
    exact records.reflects nofun rfl rfl (fun _ => rfl)
      (OrderRequest.stated_of_stated stated) nofun

end Desk

/-- More can be said of the rows of a trail and their orders. -/
theorem Trail.RecordsSent.mono {slug : String} {R S : Order → Submission × Payload → Prop}
    {t : Trail} (h : t.RecordsSent slug R) (more : ∀ row x, R row x → S row x) :
    t.RecordsSent slug S := by
  obtain ⟨sent, rows, accepted, commands⟩ := h
  exact ⟨sent, rows.imp more, accepted, commands⟩

namespace Placement

/-- **What a placement records of what it sent.** The rows of a pair and those of a protection
reflect their submissions. The row of a single order shows what was asked for, and it reflects
its submission exactly when it is plain for the type of the order. -/
inductive RecordsWhatItSent (p : Placement) : Trail → Prop where
  | nothing {t : Trail} (noRows : t.rows = []) : RecordsWhatItSent p t
  | pair {a b : Order} {x y : Submission × Payload} (isPair : p.isPair = true)
      (first : a.Reflects x) (second : b.Reflects y) :
      RecordsWhatItSent p (.filing p.venue x a ++ .filing p.venue y b)
  | single {v : ValidatedOrder} {clientId : String} {row : Order} {x : Submission × Payload}
      {u : Trail} (single : p.isPair = false)
      (shows : row.Shows (Desk.singleLeg p.request v clientId) x)
      (reflects : row.Reflects x ↔ row.IsPlain p.request.type x)
      (protection : u.RecordsSent p.venue Order.Reflects) :
      RecordsWhatItSent p (.filing p.venue x row ++ u)

/-- **What is recorded is what was sent**, but for what the type of a single order leaves out:
for every placement, by a strategy or by hand, whatever the venue answers and whatever fails. -/
theorem records_what_it_sent (p : Placement) (d : Desk) :
    ∃ t, Desk.Leaves p.venue d (p.run d).2 t ∧ p.RecordsWhatItSent t := by
  obtain ⟨t, leaves, books⟩ := p.books d
  refine ⟨t, leaves, ?_⟩
  have here : ∀ {ctx f}, p.Opens d ctx f → ctx.slug = p.venue := by
    intro ctx f opens
    rw [(Floor.of_context opens.found).1]
    cases p <;> rfl
  cases books with
  | nothing noRows => exact .nothing noRows
  | pair isPair opens prepared first second =>
    rw [here opens]
    have checks := Desk.checks_of_prepareOco prepared
    exact .pair isPair
      (first.reflects nofun rfl rfl (fun _ => rfl) checks.stated_price nofun)
      (second.reflects (fun _ => rfl) rfl rfl nofun rfl nofun)
  | single single apart opens prepared entry protection =>
    rw [here opens] at protection ⊢
    have checks := Desk.checks_of_prepareSingle prepared
    have unit := fun trailing =>
      ((OrderRequest.isComplete_of_ensureComplete opens.complete).trailing trailing).2
    exact .single single entry.shows
      (entry.reflects_iff checks.stated_price unit)
      (protection.mono fun _ _ => Desk.RecordsProtection.reflects)

/-- One coin at market, with a stop price that no market order is sent with. -/
def waitingCoin : OrderRequest := { Desk.oneCoin with stopPrice := some 0.5 }

/-- What is recorded is not always what was sent: the row of a market order shows a stop price
that the venue was not told. -/
theorem not_always_what_was_sent :
    ¬ ∀ (p : Placement) (d : Desk) (t : Trail), Desk.Leaves p.venue d (p.run d).2 t →
        t.RecordsSent p.venue Order.Reflects := by
  intro always
  let p := byHand waitingCoin "u1"
  let d := Desk.small [] {}
  obtain ⟨t, leaves, -⟩ := p.leaves_run d
  obtain ⟨sent, reflect, accepted, -⟩ := always p d t leaves
  have waits : (p.run d).2.store.ledger.rows.map (·.stopPrice.isSome) = [true] := by
    decide +kernel
  have untold : ((p.run d).2.floor.accepted "binance").map (·.1.stop.isSome) = [false] := by
    decide +kernel
  rw [show (p.run d).2.store.ledger.rows = t.rows from leaves.wrote.rows] at waits
  rw [show (p.run d).2.floor.accepted "binance" = t.accepted from leaves.accepted] at untold
  obtain ⟨row, rows, waiting⟩ := List.map_eq_singleton_iff.mp waits
  obtain ⟨x, orders, bare⟩ := List.map_eq_singleton_iff.mp untold
  rw [rows] at reflect
  obtain _ | ⟨shown, none⟩ := reflect
  cases none
  rw [orders] at accepted
  obtain rfl := List.mem_singleton.mp (accepted.subset (List.mem_cons_self ..))
  have stop := shown.stopPrice
  rw [Option.not_isSome_iff_eq_none.mp (Bool.eq_false_iff.mp bare), isSent_none_iff] at stop
  rw [stop] at waiting
  cases waiting

end Placement

end OrderDesk

import OrderDesk.Proofs.Trail

/-!
# How the placement of a single order ends

The venue and the store fail independently of each other, and at many points: a coin may be
missing, a market suspended, the submission refused, the answer unreadable, the row not
writable, the incident about the row not writable either. What a caller learns of all this
is one of four kinds of answer, and this module says what each of them means for the venue
and for the store. In particular, the kind of answer alone tells whether an order may be
standing at the venue, and whether the store has it.
-/

namespace OrderDesk

namespace Desk

variable {α β : Type} {slug : String} {d d' : Desk}

/-- **How the placement of one order ends**, where `of` says what is known of an answer, of
the acknowledgement and of the row. -/
inductive PlacesOne (of : α → Ack → Order → Prop) (slug : String) (d : Desk) :
    Except Failure α → Desk → Prop where
  /-- The order stands at the venue and in the store. -/
  | placed {a : α} {order : Submission} {answer : Payload} {ack : Ack} {row : Order}
      {d' : Desk} (read : order.readAck answer = .ok ack) (is : of a ack row)
      (leaves : Leaves slug d d' { commands := [.submitted slug order],
                                   accepted := [(order, answer)],
                                   rows := [row] }) :
      PlacesOne of slug d (.ok a) d'
  /-- The venue failed to place the order, as far as the desk can tell. -/
  | failed {operation reason : String} {t : Trail} {d' : Desk} (unplaced : Unplaced slug t)
      (leaves : Leaves slug d d' t) :
      PlacesOne of slug d (.error (.venue operation reason)) d'
  /-- The order stands at the venue and the store does not have it. From there on nothing is
  done but to escalate this, at the desk as it is then. -/
  | diverged {operation : String} {order : Submission} {answer : Payload} {ack : Ack}
      {dv : Divergence} {t : Trail} {d₁ d' : Desk} (read : order.readAck answer = .ok ack)
      (names : dv.venueOrderIds = [ack.id])
      (stood : Leaves slug d d₁ { commands := [.submitted slug order],
                                  accepted := [(order, answer)] })
      (escalated : (escalate dv d₁).2 = d') (shown : dv.Shown d₁.store t)
      (leaves : Leaves slug d d' ({ commands := [.submitted slug order],
                                    accepted := [(order, answer)] } ++ t)) :
      PlacesOne of slug d
        (.error (.unreconciled operation [ack.id] (some dv.symbol) (some dv.quantity))) d'
  /-- The desk failed before anything was said about an order. -/
  | withheld {e : Failure} {d' : Desk} (own : e.isOwn = true) (silent : Silent slug d d') :
      PlacesOne of slug d (.error e) d'

namespace PlacesOne

variable {of : α → Ack → Order → Prop} {of' : β → Ack → Order → Prop} {r : Except Failure α}

/-- What happens silently before the placement. -/
theorem after (silent : Silent slug d d') {d'' : Desk} (h : PlacesOne of slug d' r d'') :
    PlacesOne of slug d r d'' := by
  cases h with
  | placed read is leaves => exact .placed read is (silent.then leaves)
  | failed unplaced leaves => exact .failed unplaced (silent.then leaves)
  | diverged read names stood escalated shown leaves =>
    exact .diverged read names (silent.then stood) escalated shown (silent.then leaves)
  | withheld own silent' => exact .withheld own (silent.then silent')

/-- The same with another answer. -/
theorem map (g : α → β) (lifts : ∀ {a ack row}, of a ack row → of' (g a) ack row)
    (h : PlacesOne of slug d r d') : PlacesOne of' slug d (r.map g) d' := by
  cases h with
  | placed read is leaves => exact .placed read (lifts is) leaves
  | failed unplaced leaves => exact .failed unplaced leaves
  | diverged read names stood escalated shown leaves =>
    exact .diverged read names stood escalated shown leaves
  | withheld own silent => exact .withheld own silent

end PlacesOne

/-! ## Writing the row -/

section

variable {ctx : Context} {r : OrderRequest} {leg : Leg} {ack : Ack} {marks : Leg.Marks}
  {s t : Store}

theorem spares_writeSingle : Keeps Store.Spares (writeSingle ctx r leg ack marks).run :=
  .seq (Store.spares_of_idles Leg.keeps_recordNow) fun _ => Store.spares_addOrder _

/-- **How the writing of a single order ends.** -/
theorem writeSingle_cases {res : Except Fault Filed}
    (h : Store.atomically (writeSingle ctx r leg ack marks) s = (res, t)) :
    (∃ e, res = .error e ∧ Store.Idles s t)
    ∨ ∃ filed, res = .ok filed ∧ Store.Wrote s t [filed.order] []
        ∧ filed.order.IsFor ctx leg ack
        ∧ filed.order.recordedTerms = (leg.recordedTerms ack marks).kept
        ∧ filed.order.link = none ∧ filed.ticket.IsOf filed.order := by
  rcases Store.atomically_cases spares_writeSingle h with
    ⟨e, rfl, idle⟩ | ⟨filed, middle, rfl, body, after⟩
  · exact .inl ⟨e, rfl, idle⟩
  obtain ⟨ticket, s₁, recorded, written⟩ := Run.of_bind_ok body
  obtain ⟨before, isFor, alone⟩ := Leg.of_recordNow recorded
  obtain ⟨wrote, made, is⟩ := Store.of_addOrder written
  have terms : filed.order.recordedTerms = (withProtection r ticket).recordedTerms.kept :=
    Store.recordedTerms_of_addOrder written
  -- that the row also shows the prices of the protection is seen in no other column
  replace terms : filed.order.recordedTerms = ticket.recordedTerms.kept := terms
  rw [Leg.recordedTerms_of_recordNow recorded] at terms
  refine .inr ⟨filed, rfl, ?_, made.isFor (isFor.carry rfl), terms, made.link.symm.trans alone, is⟩
  exact (before.wrote.trans wrote).trans after.wrote

end

/-! ## The placement -/

/-- What is known of an order that was filed for a leg on a side of the book: its ticket is
that of its row, which is for the leg and not linked. -/
def FiledOn (ctx : Context) (side : Side) (filed : Filed) (ack : Ack) (row : Order) : Prop :=
  filed.order = row ∧ filed.ticket.IsOf row ∧ row.link = none
    ∧ ∃ leg : Leg, leg.side = side ∧ row.IsFor ctx leg ack

theorem FiledOn.venueOrderId {ctx : Context} {side : Side} {filed : Filed} {ack : Ack}
    {row : Order} (h : FiledOn ctx side filed ack row) : row.venueOrderId = ack.id := by
  obtain ⟨-, -, -, leg, -, is⟩ := h
  exact is.venueOrderId

/-- What is filed for a leg. -/
theorem filedOn_of_isFor {ctx : Context} {leg : Leg} {ack : Ack} {filed : Filed}
    (is : filed.order.IsFor ctx leg ack) (alone : filed.order.link = none)
    (of : filed.ticket.IsOf filed.order) : FiledOn ctx leg.side filed ack filed.order :=
  ⟨rfl, of, alone, leg, rfl, is⟩

/-- **From the submission of a single order on**, nothing is the desk's own failure. -/
theorem placesOne_executeSingle (ctx : Context) (r : OrderRequest) (leg : Leg)
    (marks : Leg.Marks) (d : Desk) :
    PlacesOne (FiledOn ctx leg.side) ctx.slug d (executeSingle ctx r leg marks d).1
      (executeSingle ctx r leg marks d).2 := by
  rcases submitted : runFloor (Floor.submit ctx leg "place order") d with ⟨acked, d₁⟩
  unfold executeSingle
  rw [Run.bind_apply, submitted]
  rcases submit_cases submitted with
    ⟨reason, t, rfl, unplaced, leaves⟩ | ⟨order, answer, ack, rfl, read, stands⟩
  · exact .failed unplaced leaves
  · -- from here on the order stands
    dsimp only
    rw [Run.lift_bind]
    rcases tried : tryStore (Store.atomically (writeSingle ctx r leg ack marks)) d₁ with
      ⟨written, d₂⟩
    obtain ⟨wrote, only⟩ := of_tryStore tried
    rcases writeSingle_cases wrote with ⟨fault, rfl, idle⟩ | ⟨filed, rfl, rows, is, -, alone, of⟩
    · have kept : Silent ctx.slug d₁ d₂ := leaves_of_store only idle.wrote
      have stood := stands.done kept
      obtain ⟨t, shown, left⟩ := leaves_escalate _ d₂
      exact .diverged read rfl stood rfl shown (stood.trans left)
    · have filing : Leaves ctx.slug d₁ d₂ { rows := [filed.order] } :=
        leaves_of_store only rows
      exact .placed read (filedOn_of_isFor is alone of) (stands.trans filing)

/-- **How the placement of a single order ends.** -/
theorem placesOne_placeSingle (ctx : Context) (r : OrderRequest) (isManual : Bool) (d : Desk) :
    PlacesOne (FiledOn ctx r.side) ctx.slug d (placeSingle ctx r isManual d).1
      (placeSingle ctx r isManual d).2 := by
  rcases ran : placeSingle ctx r isManual d with ⟨res, d'⟩
  show PlacesOne _ _ _ res d'
  unfold placeSingle at ran
  rw [Run.get_bind] at ran
  rcases (keeps_runFloor (keeps_prepareSingle d.reference ctx r)).of_bind ran with
    ⟨e, failed, rfl, silent⟩ | ⟨⟨v, fee, slippage⟩, d₁, -, first, ran⟩
  · exact .withheld (failsOwn_prepareSingle _ _ _ _ _ _ (of_runFloor failed).1) silent
  dsimp only at ran
  rw [Run.lift_bind] at ran
  have second : Silent ctx.slug d (clientIdOr r.clientId d₁).2 :=
    trans_of _ first (keeps_clientIdOr r.clientId d₁)
  rcases (keeps_runStore Store.keeps_beginTransaction).of_bind ran with
    ⟨e, failed, rfl, silent⟩ | ⟨_, d₂, -, begun, ran⟩
  · obtain ⟨fault, -, isFault, -⟩ := of_runStore failed
    refine .withheld ?_ (trans_of _ second silent)
    exact Own.fault fault e isFault.symm
  · have placed := placesOne_executeSingle ctx r
      (singleLeg r v (clientIdOr r.clientId d₁).1) (singleMarks r isManual fee slippage) d₂
    rw [ran] at placed
    exact .after (trans_of _ second begun) placed

/-! ## The operations -/

/-- **How an operation begins** that places orders: with two checks, and with finding out
what the request is about. Until then the desk has only asked. -/
theorem opening_found {first second : Except Failure Unit} {r : OrderRequest} {user : String}
    {next : Context → DeskM α} {res : Except Failure α} (own : Own first) (own' : Own second)
    (h : (do
      check first
      check second
      let ctx ← runFloor (Floor.context (← get).reference r user)
      next ctx : DeskM α) d = (res, d')) :
    (∃ e, res = .error e ∧ e.isOwn = true ∧ Asks d d')
    ∨ ∃ ctx d₁, next ctx d₁ = (res, d')
        ∧ runFloor (Floor.context d.reference r user) d = (.ok ctx, d₁)
        ∧ first = .ok () ∧ second = .ok () ∧ Asks d d₁ := by
  rcases Run.of_bind h with ⟨e, failed, rfl⟩ | ⟨_, d₁, passed, h⟩
  · cases failed
    exact .inl ⟨e, rfl, own e rfl, refl_of _ d.floor, rfl⟩
  cases passed
  rcases Run.of_bind h with ⟨e, failed, rfl⟩ | ⟨_, d₂, passed, h⟩
  · cases failed
    exact .inl ⟨e, rfl, own' e rfl, refl_of _ d.floor, rfl⟩
  cases passed
  rw [Run.get_bind] at h
  rcases (keeps_asks (Floor.keeps_context d.reference r user)).of_bind h with
    ⟨e, failed, rfl, asks⟩ | ⟨ctx, d₃, found, asks, h⟩
  · exact .inl ⟨e, rfl, Floor.failsOwn_context _ _ _ _ _ _ (of_runFloor failed).1, asks⟩
  · exact .inr ⟨ctx, d₃, h, found, rfl, rfl, asks⟩

/-- The context that is found names the venue of the request and its user. -/
theorem opening_asks {first second : Except Failure Unit} {r : OrderRequest} {user : String}
    {next : Context → DeskM α} {res : Except Failure α} (own : Own first) (own' : Own second)
    (h : (do
      check first
      check second
      let ctx ← runFloor (Floor.context (← get).reference r user)
      next ctx : DeskM α) d = (res, d')) :
    (∃ e, res = .error e ∧ e.isOwn = true ∧ Asks d d')
    ∨ ∃ ctx d₁, next ctx d₁ = (res, d') ∧ ctx.slug = r.venue ∧ ctx.user = user
        ∧ first = .ok () ∧ second = .ok () ∧ Asks d d₁ := by
  rcases opening_found own own' h with failed | ⟨ctx, d₁, next, found, passes, passes', asks⟩
  · exact .inl failed
  · obtain ⟨venue, owner⟩ := Floor.of_context (of_runFloor found).1
    exact .inr ⟨ctx, d₁, next, venue, owner, passes, passes', asks⟩

/-- Until then nothing was written, and no command was given. -/
theorem opening_cases {first second : Except Failure Unit} {r : OrderRequest} {user : String}
    {next : Context → DeskM α} {res : Except Failure α} (own : Own first) (own' : Own second)
    (h : (do
      check first
      check second
      let ctx ← runFloor (Floor.context (← get).reference r user)
      next ctx : DeskM α) d = (res, d')) :
    (∃ e, res = .error e ∧ e.isOwn = true ∧ Silent r.venue d d' ∧ d'.store = d.store)
    ∨ ∃ ctx d₁, next ctx d₁ = (res, d') ∧ ctx.slug = r.venue ∧ ctx.user = user
        ∧ first = .ok () ∧ second = .ok () ∧ Silent r.venue d d₁ ∧ d₁.store = d.store := by
  rcases opening_asks own own' h with
    ⟨e, rfl, isOwn, asks⟩ | ⟨ctx, d₁, next, venue, owner, passes, passes', asks⟩
  · exact .inl ⟨e, rfl, isOwn, asks.silent r.venue, asks.store⟩
  · exact .inr ⟨ctx, d₁, next, venue, owner, passes, passes', asks.silent r.venue, asks.store⟩

/-- **What a caller holds** of an order that stands: the ticket of its row, which is under
the identifier that the venue acknowledged, belongs to the caller and is not linked. -/
structure Holds (r : OrderRequest) (user : String) (ticket : Ticket) (ack : Ack)
    (row : Order) : Prop where
  ticket : ticket.IsOf row
  venueOrderId : row.venueOrderId = ack.id
  user : row.user = user
  venue : row.venue = r.venue
  side : row.side = r.side.name
  link : row.link = none

theorem holds_of_filedOn {r : OrderRequest} {ctx : Context} {filed : Filed} {ack : Ack}
    {row : Order} (venue : ctx.slug = r.venue) (h : FiledOn ctx r.side filed ack row) :
    Holds r ctx.user filed.ticket ack row := by
  obtain ⟨-, ticket, alone, leg, side, is⟩ := h
  exact ⟨ticket, is.venueOrderId, is.user, is.venue.trans venue, by rw [is.side, side], alone⟩

/-- A single order whose ticket is handed out. -/
theorem placesOne_ticket {ctx : Context} {r : OrderRequest} (venue : ctx.slug = r.venue)
    (isManual : Bool) (d : Desk) :
    PlacesOne (Holds r ctx.user) r.venue d ((placeSingle ctx r isManual d).1.map (·.ticket))
      (placeSingle ctx r isManual d).2 := by
  have placed := placesOne_placeSingle ctx r isManual d
  rw [venue] at placed
  exact placed.map _ (holds_of_filedOn venue)

/-- **An order that a strategy places** ends in one of the four ways. -/
theorem placesOne_createOrder (r : OrderRequest) (user : String) (d : Desk) :
    PlacesOne (Holds r user) r.venue d (createOrder r user d).1 (createOrder r user d).2 := by
  rcases ran : createOrder r user d with ⟨res, d'⟩
  show PlacesOne _ _ _ res d'
  rcases opening_cases (Market.own_refuseIf _ _) r.own_ensureComplete ran with
    ⟨e, rfl, own, silent, -⟩ | ⟨ctx, d₁, next, venue, rfl, -, -, silent, -⟩
  · exact .withheld own silent
  · rw [Run.map_apply] at next
    cases next
    exact .after silent (placesOne_ticket venue false d₁)

/-- A desk where one user trades one pair on one venue. The venue has these answers to the
next orders, and the store fails as planned. -/
def small (acks : List OrderAnswer) (plan : FailurePlan) : Desk where
  reference :=
    { coins := ⟨[⟨"btc", "BTC", none⟩, ⟨"usdt", "USDT", none⟩]⟩
      credentials := ⟨[{ id := "c1", user := "u1", venue := "binance" }]⟩ }
  floor :=
    { venues := [("binance",
        { markets := [("BTC/USDT", .object [("symbol", .text "BTC/USDT")])]
          acks := acks })] }
  store := { plan := plan }

/-- One coin at market. -/
def oneCoin : OrderRequest where
  venue := "binance"
  side := .buy
  type := .market
  quantity := 1.0
  baseCoin := some "btc"
  quoteCoin := some "usdt"
  symbol := none
  price := none
  stopPrice := none
  trailingAmount := none
  trailingType := none
  takeProfitPrice := none
  stopLossPrice := none
  timeInForce := none
  clientId := some "x"
  isAlgorithmic := false

/-- The orders that an answer names as accepted and not stored. -/
def unreconciled {α : Type} : Except Failure α → List String
  | .error (.unreconciled _ ids _ _) => ids
  | _ => []

end Desk

end OrderDesk

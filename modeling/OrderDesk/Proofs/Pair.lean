import OrderDesk.Proofs.Single

/-!
# How the placement of a pair ends

A pair takes two submissions, and the second can fail when the first stands. What the desk
then does is take the first back: it asks for one cancel, and whatever comes of that, the
caller hears of the submission that failed. Once both orders stand there is no way back, and
their rows are written together, linked to each other, or not at all.

The outcomes multiply over five points of failure, so they are stated as one relation
between the answer and the trail. Each answer fixes which commands were given, in which
order, and what the store has of it.
-/

namespace OrderDesk

/-! ## What is submitted -/

namespace Instruction

/-- The venue's name of an order type is read as that type. -/
theorem ofName?_upper_name (type : OrderType) :
    (Vocabulary.ofName? (Text.upper type.name) : Option OrderType) = some type := by
  cases type <;> decide +kernel

variable {slug : String} {i : Instruction}

/-- A limit order can always be put into the venue's words. -/
theorem arguments_limit (h : i.type = OrderType.limit.name) :
    i.arguments slug = .ok (.limit, i.price, i.commonExtras) := by
  unfold arguments
  rw [h]
  simp only [ofName?_upper_name]

/-- A stop order can be put into the venue's words when its stop price is stated. -/
theorem arguments_stopLoss {p : Payload} (h : i.type = OrderType.stopLoss.name)
    (stop : i.terms.stopPrice = some p) :
    i.arguments slug = .ok (.market, none, { i.commonExtras with stopLossPrice := some p }) := by
  unfold arguments
  rw [h, stop]
  simp only [ofName?_upper_name]
  rfl

end Instruction

namespace Desk

/-- **The two submissions of a pair**: a limit order that takes profit, and a stop on the
same symbol and side. -/
structure AreHalves (p q : Submission) : Prop where
  limit : p.execution = .limit
  /-- The second one has the price at which it becomes active. -/
  stop : q.extras.stopLossPrice.isSome
  symbol : q.symbol = p.symbol
  side : q.side = p.side

/-- Both halves of a complete pair can be put into the venue's words. -/
theorem shapes_pair (ctx : Context) (r : OrderRequest) (profit stop : ValidatedOrder)
    (baseId : String) (active : stop.referencePrice.isSome) :
    ∃ p q, ((profitLeg r profit baseId).instruction ctx.symbol).shape ctx.slug = .ok p
      ∧ ((stopLeg r stop baseId).instruction ctx.symbol).shape ctx.slug = .ok q
      ∧ p.symbol = ctx.symbol ∧ AreHalves p q := by
  obtain ⟨price, stated⟩ := Option.isSome_iff_exists.mp active
  -- only the stop-loss half can be refused a shape, for want of its price
  have term : ((stopLeg r stop baseId).instruction ctx.symbol).terms.stopPrice
      = some (.real price) := by
    show stop.referencePrice.map Payload.real = _
    rw [stated]
    rfl
  refine ⟨_, _, Run.bind_of_ok (Instruction.arguments_limit rfl) rfl,
    Run.bind_of_ok (Instruction.arguments_stopLoss rfl term) rfl, rfl, ?_⟩
  exact ⟨rfl, rfl, rfl, rfl⟩

/-! ## Taking the first leg back -/

variable {ctx : Context} {d d' : Desk}

/-- **Taking a leg back** is one cancel, whatever comes of it. -/
theorem said_compensate (ctx : Context) (ack : Ack) (f : Floor) :
    Floor.Said ctx.slug f (compensate ctx ack f).2 [.canceled ctx.slug ack.id ctx.symbol]
      [] := by
  have asked : Floor.Said ctx.slug f (Floor.trySpeak ctx (Line.cancel ack.id ctx.symbol) f).2
      [.canceled ctx.slug ack.id ctx.symbol] [] :=
    Floor.said_onLine (Line.said_cancel ack.id ctx.symbol (f.session ctx.slug ctx.user))
  unfold compensate
  rw [Run.bindM_apply]
  cases (Floor.trySpeak ctx (Line.cancel ack.id ctx.symbol) f).1 with
  | ok _ => exact asked
  | error e => exact asked.trans ((Floor.reads_notify rfl _).said ctx.slug)

section

variable {stop : Leg} {first : Ack} {f g : Floor}

/-- A second leg that is acknowledged. -/
theorem submitSecond_of_ok {ack : Ack}
    (ran : Floor.submit ctx stop "place stop-loss order" f = (.ok ack, g)) :
    submitSecond ctx stop first f = (.ok ack, g) := by
  have asked : (Floor.submit ctx stop "place stop-loss order").run f = (.ok ack, g) := ran
  unfold submitSecond
  rw [asked]

/-- A second leg that is not acknowledged takes the first one back. -/
theorem submitSecond_of_error {e : Failure}
    (ran : Floor.submit ctx stop "place stop-loss order" f = (.error e, g)) :
    submitSecond ctx stop first f = (.error e, (compensate ctx first g).2) := by
  have asked : (Floor.submit ctx stop "place stop-loss order").run f = (.error e, g) := ran
  unfold submitSecond
  rw [asked]

end

/-- **How the submission of both legs ends**: with the failure of the first, with the
failure of the second and one cancel of the first, or with two acknowledgements. -/
theorem submitBoth_cases {profit stop : Leg} {p q : Submission} {f g : Floor}
    {res : Except Failure (Ack × Ack)}
    (shaped : (profit.instruction ctx.symbol).shape ctx.slug = .ok p)
    (shaped' : (stop.instruction ctx.symbol).shape ctx.slug = .ok q)
    (h : submitBoth ctx profit stop f = (res, g)) :
    (∃ reason accepted, res = .error (.venue "place take-profit order" reason)
        ∧ p.NoAck accepted ∧ Floor.Said ctx.slug f g [.submitted ctx.slug p] accepted)
    ∨ (∃ reason answer first accepted, res = .error (.venue "place stop-loss order" reason)
        ∧ p.readAck answer = .ok first ∧ q.NoAck accepted
        ∧ Floor.Said ctx.slug f g [.submitted ctx.slug p, .submitted ctx.slug q,
            .canceled ctx.slug first.id ctx.symbol] ((p, answer) :: accepted))
    ∨ ∃ answer answer' first second, res = .ok (first, second)
        ∧ p.readAck answer = .ok first ∧ q.readAck answer' = .ok second
        ∧ Floor.Said ctx.slug f g [.submitted ctx.slug p, .submitted ctx.slug q]
            [(p, answer), (q, answer')] := by
  rcases Run.of_bind h with ⟨e, failed, rfl⟩ | ⟨first, f₁, submitted, h⟩
  · rcases Floor.submits_of_shape shaped failed with
      ⟨reason, accepted, same, noAck, said⟩ | ⟨_, _, wrong, -⟩
    · cases same
      exact .inl ⟨reason, accepted, rfl, noAck, said⟩
    · cases wrong
  rcases Floor.submits_of_shape shaped submitted with
    ⟨_, _, wrong, -⟩ | ⟨answer, _, same, read, said⟩
  · cases wrong
  cases same
  refine .inr ?_
  rcases ran : Floor.submit ctx stop "place stop-loss order" f₁ with ⟨second, f₂⟩
  rw [Run.bind_apply] at h
  rcases Floor.submits_of_shape shaped' ran with
    ⟨reason, accepted, rfl, noAck, said'⟩ | ⟨answer', ack, rfl, read', said'⟩
  · rw [submitSecond_of_error ran] at h
    cases h
    refine .inl ⟨reason, answer, first, accepted, rfl, read, noAck, ?_⟩
    -- the cancel comes after both submissions and says nothing about acceptance
    have whole := (said.trans said').trans (said_compensate ctx first f₂)
    rwa [List.append_nil] at whole
  · rw [submitSecond_of_ok ran] at h
    cases h
    exact .inr ⟨answer, answer', first, ack, rfl, read, read', said.trans said'⟩

/-! ## Writing both rows -/

section

variable {profit stop : Leg} {acks : Ack × Ack} {fee : Option FeeEstimate} {s t : Store}

/-- **What is known of the rows of a pair** and of the ticket that is handed out: each row
is for its leg and linked to the other one, and the ticket is that of the first. -/
structure ArePair (ctx : Context) (profit stop : Leg) (acks : Ack × Ack) (ticket : Ticket)
    (a b : Order) : Prop where
  /-- The first row is for the take-profit leg. -/
  first : a.IsFor ctx profit acks.1
  /-- The second row is for the stop-loss leg. -/
  second : b.IsFor ctx stop acks.2
  /-- The first row is linked to the second. -/
  forth : a.link = some b.id
  /-- The second row is linked to the first. -/
  back : b.link = some a.id
  apart : a.id ≠ b.id
  /-- The ticket is that of the first row. -/
  ticket : ticket.IsOf a

/-- **The rows of a pair show the terms of its legs**; only the first one has an estimate. -/
structure ShowTerms (profit stop : Leg) (acks : Ack × Ack) (fee : Option FeeEstimate)
    (a b : Order) : Prop where
  first : a.recordedTerms
    = (profit.recordedTerms acks.1 { isManual := true, fee := fee }).kept
  second : b.recordedTerms = (stop.recordedTerms acks.2 { isManual := true }).kept

theorem spares_writeOco : Keeps Store.Spares (writeOco ctx profit stop acks fee).run :=
  .seq (Store.spares_of_idles Leg.keeps_recordNow) fun _ =>
    .seq (Store.spares_addOrder _) fun _ =>
    .seq (Store.spares_of_idles Leg.keeps_recordNow) fun _ =>
    .seq (Store.spares_addOrder _) fun _ =>
    .seq (Store.spares_linkTo _ _) fun _ => .answer _

/-- A row that is linked, and the ticket of it. -/
theorem isOf_withLink {ticket : Ticket} {row : Order} (is : ticket.IsOf row) (link : String)
    (time : Stamp) :
    ({ ticket with link := some link, updatedAt := some time } : Ticket).IsOf
      (Store.withLink link time row) := by
  obtain ⟨-, -, relinked⟩ := Ticket.of_toOrder is.stored
  exact ⟨is.id, is.transactTime, is.createdAt, rfl, relinked (some link) time⟩

/-- What the writing of a pair has written when it comes to its end. -/
theorem wrote_writeOco {ticket : Ticket}
    (h : writeOco ctx profit stop acks fee s = (.ok ticket, t)) :
    ∃ a b, Store.Wrote s t [a, b] [] ∧ ArePair ctx profit stop acks ticket a b
      ∧ ShowTerms profit stop acks fee a b := by
  obtain ⟨draft, s₁, recorded, h⟩ := Run.of_bind_ok h
  obtain ⟨first, s₂, written, h⟩ := Run.of_bind_ok h
  obtain ⟨draft', s₃, recorded', h⟩ := Run.of_bind_ok h
  obtain ⟨second, s₄, written', h⟩ := Run.of_bind_ok h
  obtain ⟨time, s₅, linked, h⟩ := Run.of_bind_ok h
  cases h
  obtain ⟨idle, isFor, -⟩ := Leg.of_recordNow recorded
  obtain ⟨wrote, made, is⟩ := Store.of_addOrder written
  obtain ⟨idle', isFor', -⟩ := Leg.of_recordNow recorded'
  obtain ⟨wrote', made', -⟩ := Store.of_addOrder written'
  have both : Store.Wrote s s₄ [first.order, second.order] [] :=
    (idle.wrote.trans wrote).trans (idle'.wrote.trans wrote')
  have apart : first.order.id ≠ second.order.id := Ledger.ids_ne_of_rows both.rows
  rcases Store.linkTo_cases linked with ⟨_, wrong, -⟩ | ⟨_, same, ledger, incidents, spares⟩
  · cases wrong
  cases same
  refine ⟨Store.withLink second.order.id time first.order, second.order, ⟨?_, ?_, ?_⟩, ?_,
    ?_, ?_⟩
  · rw [ledger, Ledger.rows_update_first both.rows]
    rfl
  · rw [incidents, both.incidents]
  · exact trans_of _ both.spares spares
  · have isFirst := made.isFor isFor
    exact ⟨⟨isFirst.venueOrderId, isFirst.user, isFirst.venue, isFirst.baseCoin,
      isFirst.quoteCoin, isFirst.side, isFirst.type⟩, made'.isFor (isFor'.carry rfl),
      rfl, made'.link.symm, apart, isOf_withLink is _ time⟩
  · rw [Order.recordedTerms_withLink, Store.recordedTerms_of_addOrder written,
      Leg.recordedTerms_of_recordNow recorded]
  · rw [Store.recordedTerms_of_addOrder written', Ticket.recordedTerms_link,
      Leg.recordedTerms_of_recordNow recorded']

/-- **How the writing of a pair ends.** -/
theorem writeOco_cases {res : Except Fault Ticket}
    (h : Store.transaction (writeOco ctx profit stop acks fee) s = (res, t)) :
    (∃ e, res = .error e ∧ Store.Idles s t)
    ∨ ∃ ticket a b, res = .ok ticket ∧ Store.Wrote s t [a, b] []
        ∧ ArePair ctx profit stop acks ticket a b ∧ ShowTerms profit stop acks fee a b := by
  rcases Store.transaction_cases spares_writeOco h with
    ⟨e, rfl, idle⟩ | ⟨ticket, begun, middle, rfl, before, body, after⟩
  · exact .inl ⟨e, rfl, idle⟩
  · obtain ⟨a, b, wrote, pair, terms⟩ := wrote_writeOco body
    exact .inr ⟨ticket, a, b, rfl, (before.wrote.trans wrote).trans after.wrote, pair, terms⟩

end

/-! ## The placement -/

/-- **How the placement of a pair ends.** -/
inductive PlacesPair (r : OrderRequest) (user : String) (d : Desk) :
    Except Failure Ticket → Desk → Prop where
  /-- The desk failed before anything was said about an order. -/
  | withheld {e : Failure} {d' : Desk} (own : e.isOwn = true)
      (silent : Silent r.venue d d') (store : d'.store = d.store) :
      PlacesPair r user d (.error e) d'
  /-- The take-profit submission failed. -/
  | profitFailed {p q : Submission} {accepted : List (Submission × Payload)}
      {reason : String} {d' : Desk} (halves : AreHalves p q) (noAck : p.NoAck accepted)
      (store : d'.store = d.store)
      (leaves : Leaves r.venue d d' { commands := [.submitted r.venue p],
                                      accepted := accepted }) :
      PlacesPair r user d (.error (.venue "place take-profit order" reason)) d'
  /-- The stop-loss submission failed and the first leg was taken back. -/
  | stopFailed {p q : Submission} {answer : Payload} {first : Ack}
      {accepted : List (Submission × Payload)} {reason : String} {d' : Desk}
      (halves : AreHalves p q) (read : p.readAck answer = .ok first)
      (noAck : q.NoAck accepted) (store : d'.store = d.store)
      (leaves : Leaves r.venue d d' { commands := [.submitted r.venue p,
                                                   .submitted r.venue q,
                                                   .canceled r.venue first.id p.symbol],
                                      accepted := (p, answer) :: accepted }) :
      PlacesPair r user d (.error (.venue "place stop-loss order" reason)) d'
  /-- Both orders stand and are stored, linked to each other. -/
  | placed {p q : Submission} {answer answer' : Payload} {first second : Ack} {a b : Order}
      {ctx : Context} {profit stop : Leg} {ticket : Ticket} {d' : Desk}
      (halves : AreHalves p q) (read : p.readAck answer = .ok first)
      (read' : q.readAck answer' = .ok second) (owner : ctx.user = user)
      (venue : ctx.slug = r.venue) (side : profit.side = r.side) (side' : stop.side = r.side)
      (pair : ArePair ctx profit stop (first, second) ticket a b)
      (leaves : Leaves r.venue d d' { commands := [.submitted r.venue p,
                                                   .submitted r.venue q],
                                      accepted := [(p, answer), (q, answer')],
                                      rows := [a, b] }) :
      PlacesPair r user d (.ok ticket) d'
  /-- Both orders stand and the store has neither. From there on nothing is done but to
  escalate this, at the desk as it is then. -/
  | diverged {p q : Submission} {answer answer' : Payload} {first second : Ack}
      {dv : Divergence} {t : Trail} {d₁ d' : Desk} (halves : AreHalves p q)
      (read : p.readAck answer = .ok first) (read' : q.readAck answer' = .ok second)
      (names : dv.venueOrderIds = [first.id, second.id])
      (stood : Leaves r.venue d d₁ { commands := [.submitted r.venue p, .submitted r.venue q],
                                     accepted := [(p, answer), (q, answer')] })
      (escalated : (escalate dv d₁).2 = d') (shown : dv.Shown d₁.store t)
      (leaves : Leaves r.venue d d' ({ commands := [.submitted r.venue p,
                                                    .submitted r.venue q],
                                       accepted := [(p, answer), (q, answer')] } ++ t)) :
      PlacesPair r user d (.error (.unreconciled "place OCO order" [first.id, second.id]
        (some dv.symbol) (some dv.quantity))) d'

/-- What happens silently before a pair is placed, and leaves the store alone. -/
theorem PlacesPair.after {r : OrderRequest} {user : String} {d'' : Desk}
    {res : Except Failure Ticket} (silent : Silent r.venue d d') (same : d'.store = d.store)
    (h : PlacesPair r user d' res d'') : PlacesPair r user d res d'' := by
  cases h with
  | withheld own silent' store =>
    exact .withheld own (silent.then silent') (store.trans same)
  | profitFailed halves noAck store leaves =>
    exact .profitFailed halves noAck (store.trans same) (silent.then leaves)
  | stopFailed halves read noAck store leaves =>
    exact .stopFailed halves read noAck (store.trans same) (silent.then leaves)
  | placed halves read read' owner venue side side' pair leaves =>
    exact .placed halves read read' owner venue side side' pair (silent.then leaves)
  | diverged halves read read' names stood escalated shown leaves =>
    exact .diverged halves read read' names (silent.then stood) escalated shown
      (silent.then leaves)

/-- **From the submission of a pair on.** -/
theorem placesPair_executeOco {ctx : Context} {r : OrderRequest} {profit stop : Leg}
    {p q : Submission} (fee : Option FeeEstimate) (d : Desk) (venue : ctx.slug = r.venue)
    (side : profit.side = r.side) (side' : stop.side = r.side)
    (shaped : (profit.instruction ctx.symbol).shape ctx.slug = .ok p)
    (shaped' : (stop.instruction ctx.symbol).shape ctx.slug = .ok q)
    (symbol : p.symbol = ctx.symbol) (halves : AreHalves p q) :
    PlacesPair r ctx.user d (executeOco ctx r profit stop fee d).1
      (executeOco ctx r profit stop fee d).2 := by
  rcases spoken : runFloor (submitBoth ctx profit stop) d with ⟨both, d₁⟩
  obtain ⟨submitted, only⟩ := of_runFloor spoken
  have same : d₁.store = d.store := by rw [only]
  unfold executeOco
  rw [Run.bind_apply, spoken]
  rcases submitBoth_cases shaped shaped' submitted with
    ⟨reason, accepted, rfl, noAck, said⟩
    | ⟨reason, answer, first, accepted, rfl, read, noAck, said⟩
    | ⟨answer, answer', first, second, rfl, read, read', said⟩ <;> rw [venue] at said
  · exact .profitFailed halves noAck same (leaves_of_floor only said)
  · rw [← symbol] at said
    exact .stopFailed halves read noAck same (leaves_of_floor only said)
  · -- from here on both orders stand
    have stand : Leaves r.venue d d₁ _ := leaves_of_floor only said
    dsimp only
    rw [Run.lift_bind]
    rcases tried : tryStore (Store.transaction (writeOco ctx profit stop (first, second) fee))
      d₁ with ⟨written, d₂⟩
    obtain ⟨wrote, only'⟩ := of_tryStore tried
    rcases writeOco_cases wrote with ⟨fault, rfl, idle⟩ | ⟨ticket, a, b, rfl, rows, pair, -⟩
    · have kept : Silent r.venue d₁ d₂ := leaves_of_store only' idle.wrote
      have stood := stand.done kept
      obtain ⟨t, shown, left⟩ := leaves_escalate _ d₂
      exact .diverged halves read read' rfl stood rfl shown (stood.trans left)
    · have filing : Leaves r.venue d₁ d₂ { rows := [a, b] } := leaves_of_store only' rows
      exact .placed halves read read' rfl venue side side' pair (stand.trans filing)

/-- **How the placement of a pair ends** that is complete. -/
theorem placesPair_placeOco {ctx : Context} {r : OrderRequest} (d : Desk)
    (venue : ctx.slug = r.venue) (target : r.takeProfitPrice.isSome) :
    PlacesPair r ctx.user d (placeOco ctx r d).1 (placeOco ctx r d).2 := by
  rcases ran : placeOco ctx r d with ⟨res, d'⟩
  show PlacesPair _ _ _ res d'
  unfold placeOco at ran
  rw [Run.get_bind] at ran
  have asked : Keeps (Silent r.venue) (runFloor (prepareOco d.reference ctx r)).run :=
    keeps_runFloor (keeps_prepareOco d.reference ctx r)
  rcases asked.of_bind ran with
    ⟨e, failed, rfl, silent⟩ | ⟨⟨profit, stop, fee⟩, d₁, prepared, silent, ran⟩
  · obtain ⟨spoken, only⟩ := of_runFloor failed
    exact .withheld (failsOwn_prepareOco _ _ _ _ _ _ spoken) silent (by rw [only])
  obtain ⟨spoken, only⟩ := of_runFloor prepared
  -- the shape of the second half is settled here, before the first one is submitted
  have active := isSome_stop_of_prepareOco target spoken
  dsimp only at ran
  rw [Run.lift_bind] at ran
  obtain ⟨p, q, shaped, shaped', symbol, halves⟩ :=
    shapes_pair ctx r profit stop (clientIdOr r.clientId d₁).1 active
  have placed := placesPair_executeOco fee (clientIdOr r.clientId d₁).2 venue rfl rfl shaped
    shaped' symbol halves
  rw [ran] at placed
  refine .after (silent.then (keeps_clientIdOr r.clientId d₁)) ?_ placed
  rw [store_clientIdOr, only]

/-- **A pair that is placed by hand** ends in one of the five ways. -/
theorem placesPair {r : OrderRequest} (pair : r.type = .oco) (user : String)
    (d : Desk) :
    PlacesPair r user d (placeManualOrder r user d).1 (placeManualOrder r user d).2 := by
  rcases ran : placeManualOrder r user d with ⟨res, d'⟩
  show PlacesPair _ _ _ res d'
  rcases opening_cases r.own_ensureComplete (OrderRequest.own_ensureSupported _ _) ran with
    ⟨e, rfl, own, silent, same⟩ | ⟨ctx, d₁, next, venue, rfl, complete, -, silent, same⟩
  · exact .withheld own silent same
  · obtain ⟨target, -⟩ := (OrderRequest.isComplete_of_ensureComplete complete).targets pair
    have isPair : (r.type == .oco) = true := beq_iff_eq.mpr pair
    rw [isPair] at next
    have placed := placesPair_placeOco d₁ venue target
    rw [show placeOco ctx r d₁ = (res, d') from next] at placed
    exact .after silent same placed

/-- A pair around a price of one. -/
def onePair : OrderRequest :=
  { oneCoin with type := .oco, takeProfitPrice := some 2.0, stopLossPrice := some 0.5 }

end Desk

end OrderDesk

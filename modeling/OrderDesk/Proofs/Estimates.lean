import OrderDesk.Proofs.Placements
import OrderDesk.Proofs.Quotes
import OrderDesk.Proofs.Quoting

/-!
# Estimates never influence a placement

What an order is expected to cost is found out before the order is submitted, over the same
connection, and it goes into the record of the order. So a placement is run at two desks
that differ in what the venues say about prices, books and fees, and the two runs are
followed from one operation to the next. They ask the venues different things and are told
different things, but the order that they submit is the same order, and they write the same
rows, up to the two columns that hold the estimate.

The one column in which an estimate could show itself is the currency of the fee, since
what the venue does not say about it is filled in from the estimate. It does not, because
the fee is expected in the quote coin whatever the venue says
(`Floor.currency_of_estimateOnLine`).

There is one place where the estimate does show, and that is an incident. When the store itself
objects to the row of an accepted order, its words go into the incident, and they quote the
whole row (`incidents_show_estimates`). All else about the incident is the same, and so is what
the words say about anything but the estimate.

The comparison is made in a view, so that the same lemmas also compare desks that differ in
nothing that a placement can see. That is what previews need.
-/

namespace OrderDesk

namespace Desk

/-- **Two desks are the same in a view.** When what is about to be done is known to be about
some context, both have the connection for it. -/
structure SameIn (v : View) (held : Option Context) (d e : Desk) : Prop where
  reference : d.reference = e.reference
  floor : d.floor.SameIn v held e.floor
  store : d.store.SameIn v e.store
  clientIds : d.clientIds = e.clientIds

variable {v : View} {held : Option Context}

/-! ## Parts of an operation -/

section

variable {α β : Type} {E : Fault → Fault → Prop} {A : α → α → Prop} {B : β → β → Prop}

/-- **What happens on the floor** matches on desks when it does on floors. -/
theorem matches_onFloor {x y : StateM Floor α} (h : Matches (Floor.SameIn v held) A x y) :
    Matches (SameIn v held) A (onFloor x) (onFloor y) :=
  fun _ _ same => ⟨(h _ _ same.floor).1, { same with floor := (h _ _ same.floor).2 }⟩

theorem matches_runFloor {x y : FloorM α}
    (h : Matches (Floor.SameIn v held) (EndAlike A) x.run y.run) :
    Matches (SameIn v held) (EndAlike A) (runFloor x).run (runFloor y).run := matches_onFloor h

/-- **What happens in the store** matches on desks when it does in stores. -/
theorem matches_tryStore {x y : StoreM α}
    (h : Matches (Store.SameIn v) (Ends E A) x.run y.run) :
    Matches (SameIn v held) (Ends E A) (tryStore x) (tryStore y) :=
  fun _ _ same => ⟨(h _ _ same.store).1, { same with store := (h _ _ same.store).2 }⟩

theorem matches_runStore {x y : StoreM α}
    (h : Matches (Store.SameIn v) (EndAlike A) x.run y.run) :
    Matches (SameIn v held) (EndAlike A) (runStore x).run (runStore y).run := by
  refine .seqM (matches_tryStore h) fun r r' ends => .answerM ?_
  exact ends.mapError fun _ => rfl

/-- The outcome of an operation that may fail. -/
theorem matches_attempt {x y : DeskM α} (h : Matches (SameIn v held) (EndAlike A) x.run y.run) :
    Matches (SameIn v held) (EndAlike (EndAlike A)) (attempt x).run (attempt y).run := .lift h

/-- **What is written after a venue accepted**, and what is done when that fails. -/
theorem matches_settle {x y : StoreM α} {f g : Except Fault α → DeskM β}
    (h : Matches (Store.SameIn v) (Ends E A) x.run y.run)
    (written : ∀ a b, A a b → Matches (SameIn v held) (EndAlike B) (f (.ok a)).run (g (.ok b)).run)
    (lost : ∀ e e', E e e' →
      Matches (SameIn v held) (EndAlike B) (f (.error e)).run (g (.error e')).run) :
    Matches (SameIn v held) (EndAlike B) (liftM (tryStore x) >>= f).run
      (liftM (tryStore y) >>= g).run := by
  refine .seq (.lift (matches_tryStore h)) fun r r' ends => ?_
  cases ends with
  | ok related => exact written _ _ related
  | error related => exact lost _ _ related

namespace SameIn

theorem respects_runFloor {x : FloorM α} (h : Respects (Floor.SameIn v held) x.run) :
    Respects (SameIn v held) (runFloor x).run := matches_onFloor h

theorem respects_check (x : Except Failure α) : Respects (SameIn v held) (check x).run := .answerM x

theorem respects_notify (n : Notice) : Respects (SameIn v held) (notify n) :=
  matches_onFloor fun _ _ same => ⟨rfl, same.notices _ _⟩

theorem respects_newClientId : Respects (SameIn v held) newClientId :=
  fun _ _ same => ⟨congrArg (fun n => "cid-" ++ Number.digitsText (n + 1)) same.clientIds,
    { same with clientIds := congrArg (· + 1) same.clientIds }⟩

theorem respects_clientIdOr (given : Option String) :
    Respects (SameIn v held) (clientIdOr given) := by
  unfold clientIdOr
  split
  · exact .answerM _
  · exact respects_newClientId

end SameIn

/-- **Divergences that are the same** are escalated in the same way. -/
theorem matches_escalate {dv dv' : Divergence} (same : dv.SameIn v dv') :
    Matches (SameIn v held) Eq (escalate dv) (escalate dv') := by
  have told (n n' : Notice) : Matches (SameIn v held) Eq (notify n) (notify n') :=
    matches_onFloor fun _ _ h => ⟨rfl, h.notices _ _⟩
  refine .seqM (told _ _) fun _ _ _ =>
    .seqM (matches_tryStore (Store.matches_createIncident same)) fun r r' ends => ?_
  cases ends with
  | ok _ => exact .answerM rfl
  | error _ => exact told _ _

/-- An escalated operation fails in the same way. -/
theorem matches_escalateAndFail (ctx : Context) (step : String) (ids : List String)
    (quantity : Float) (request : Payload) (operation : String) {e e' : Fault}
    (same : e.SameIn v e') :
    Matches (SameIn v held) (EndAlike B)
      (escalateAndFail (divergence ctx step ids quantity request e) operation : DeskM β).run
      (escalateAndFail (divergence ctx step ids quantity request e') operation : DeskM β).run :=
  .seq (.lift (matches_escalate (same.divergence ctx step ids quantity request)))
    fun _ _ _ => .fail rfl

end

/-! ## Single orders -/

section

variable {ctx : Context} {r : OrderRequest} {marks marks' : Leg.Marks}

/-- The prices of its protection go through the view. -/
theorem withProtection_seen (t : Ticket) :
    (withProtection r t).seen v = withProtection r (t.seen v) := by cases v <;> rfl

theorem matches_writeSingle (leg : Leg) (ack : Ack)
    (same : marks.SameIn v ctx.quote.symbol marks') :
    Matches (Store.SameIn v) (Ends (Fault.SameIn v) (Filed.SameIn v))
      (writeSingle ctx r leg ack marks).run
      (writeSingle ctx r leg ack marks').run := by
  refine .seq (Leg.matches_recordNow same) fun ticket ticket' seen => Store.matches_addOrder ?_
  rw [withProtection_seen, withProtection_seen, seen]

/-- **A single order is submitted in the same words**, and written as the same row. -/
theorem matches_executeSingle (leg : Leg) (same : marks.SameIn v ctx.quote.symbol marks') :
    Matches (SameIn v held) (EndAlike (Filed.SameIn v)) (executeSingle ctx r leg marks).run
      (executeSingle ctx r leg marks').run :=
  .after (SameIn.respects_runFloor (Floor.respects_submit ctx leg _)) fun ack =>
    matches_settle (Store.matches_atomically (matches_writeSingle leg ack same))
      (fun _ _ filed => .answer filed) fun _ _ same => matches_escalateAndFail _ _ _ _ _ _ same

/-- How an order is marked depends on the estimate only in the view. -/
theorem singleMarks_sameIn {e e' : Option FeeEstimate × Option Float} {quote : String}
    (isManual : Bool) (same : Floor.EstimatesSameIn v quote e e') :
    (singleMarks r isManual e.1 e.2).SameIn v quote (singleMarks r isManual e'.1 e'.2) :=
  ⟨rfl, rfl, same.currency, fun whole => by rw [same.whole whole]⟩

theorem matches_placeSingle (isManual : Bool) :
    Matches (SameIn v (some ctx)) (EndAlike (Filed.SameIn v)) (placeSingle ctx r isManual).run
      (placeSingle ctx r isManual).run := by
  refine .look (fun _ _ h => by simp only [h.reference]) fun d =>
    .seq (matches_runFloor (matches_prepareSingle d.reference r)) ?_
  rintro ⟨order, estimate⟩ ⟨_, estimate'⟩ ⟨rfl, same⟩
  exact .after (.lift (SameIn.respects_clientIdOr _)) fun clientId =>
    .seq (matches_runStore (.ofRespects Store.SameIn.respects_beginTransaction)) fun _ _ _ =>
      matches_executeSingle _ (singleMarks_sameIn isManual same)

/-! ## Pairs of orders -/

theorem matches_writeOco {fee fee' : Option FeeEstimate} (profit stop : Leg) (acks : Ack × Ack)
    (same : Floor.EstimatesSameIn v ctx.quote.symbol (fee, none) (fee', none)) :
    Matches (Store.SameIn v) (Ends (Fault.SameIn v) fun t u => t.seen v = u.seen v)
      (writeOco ctx profit stop acks fee).run (writeOco ctx profit stop acks fee').run := by
  have marks : Leg.Marks.SameIn v ctx.quote.symbol { isManual := true, fee := fee }
      { isManual := true, fee := fee' } :=
    ⟨rfl, rfl, same.currency, fun whole => by cases same.whole whole; rfl⟩
  refine .seq (Leg.matches_recordNow marks) fun _ _ seen =>
    .seq (Store.matches_addOrder seen) fun first first' filed => ?_
  have firstId : first.order.id = first'.order.id := Order.id_eq_of_seen filed.order
  refine .seq (Leg.matches_recordNow ⟨rfl, rfl, rfl, fun _ => rfl⟩) fun _ _ seen' =>
    .seq (Store.matches_addOrder ?_) fun second second' filed' => ?_
  · rw [firstId]
    exact Ticket.seen_congr (f := fun t => { t with link := some first'.order.id })
      (fun t => by cases v <;> rfl) seen'
  have secondId : second.order.id = second'.order.id := Order.id_eq_of_seen filed'.order
  rw [firstId, secondId]
  exact .after (Store.SameIn.respects_linkTo _ _) fun time => .answer <|
    Ticket.seen_congr
      (f := fun t => { t with link := some second'.order.id, updatedAt := some time })
      (fun t => by cases v <;> rfl) filed.ticket

theorem matches_executeOco {fee fee' : Option FeeEstimate} (profit stop : Leg)
    (same : Floor.EstimatesSameIn v ctx.quote.symbol (fee, none) (fee', none)) :
    Matches (SameIn v held) (EndAlike fun t u => t.seen v = u.seen v)
      (executeOco ctx r profit stop fee).run (executeOco ctx r profit stop fee').run :=
  .after (SameIn.respects_runFloor (Floor.respects_submitBoth ctx profit stop)) fun acks =>
    matches_settle (Store.matches_transaction (matches_writeOco profit stop acks same))
      (fun _ _ seen => .answer seen) fun _ _ same => matches_escalateAndFail _ _ _ _ _ _ same

/-- **A pair is submitted in the same words**, and written as the same rows. -/
theorem matches_placeOco :
    Matches (SameIn v (some ctx)) (EndAlike fun t u => t.seen v = u.seen v)
      (placeOco ctx r).run (placeOco ctx r).run := by
  refine .look (fun _ _ h => by simp only [h.reference]) fun d =>
    .seq (matches_runFloor (matches_prepareOco d.reference r)) ?_
  rintro ⟨profit, stop, fee⟩ ⟨_, _, fee'⟩ ⟨rfl, rfl, same⟩
  exact .after (.lift (SameIn.respects_clientIdOr _)) fun baseId => matches_executeOco _ _ same

/-! ## Protection -/

/-- **A protective order** is not estimated. -/
theorem matches_placeProtection (leg : Leg) :
    Matches (SameIn v held) (EndAlike fun f g : Filed => f.order.id = g.order.id)
      (placeProtection ctx leg).run (placeProtection ctx leg).run := by
  have marks : Leg.Marks.SameIn v ctx.quote.symbol { isManual := true } { isManual := true } :=
    ⟨rfl, rfl, rfl, fun _ => rfl⟩
  refine .after (SameIn.respects_runFloor (Floor.respects_submit ctx leg _)) fun ack =>
    .seq (matches_runStore (Leg.matches_recordNow marks)) fun ticket ticket' seen =>
    matches_settle (Store.matches_transaction (Store.matches_addOrder seen))
      (fun filed filed' same => .answer (Order.id_eq_of_seen same.order))
      fun _ _ same => matches_escalateAndFail _ _ _ _ _ _ same

/-- Protective orders, one after the other. -/
theorem matches_placeEach (entryId : String) (legs : List Leg) :
    Matches (SameIn v held) (EndAlike (List.Forall₂ fun f g : Filed => f.order.id = g.order.id))
      (placeEach ctx entryId legs).run (placeEach ctx entryId legs).run := by
  induction legs with
  | nil => exact .answer .nil
  | cons leg rest ih =>
    refine .seq (matches_attempt (matches_placeProtection leg)) fun placed placed' ends => ?_
    cases ends with
    | ok same => exact .seq ih fun _ _ others => .answer (.cons same others)
    | error same =>
      subst same
      dsimp only
      split
      · exact .after (.lift (SameIn.respects_notify _)) fun _ => ih
      · exact .fail rfl

theorem respects_linkBoth (a b : String) : Respects (Store.SameIn v) (linkBoth a b).run :=
  .seq (Store.SameIn.respects_linkTo _ _) fun _ => .seq (Store.SameIn.respects_linkTo _ _)
    fun _ => .answer ()

/-- **Only identifiers are linked.** -/
theorem matches_linkProtection (entryId : String) {placed placed' : List Filed}
    (same : List.Forall₂ (fun f g => f.order.id = g.order.id) placed placed') :
    Matches (SameIn v held) Eq (linkProtection entryId placed)
      (linkProtection entryId placed') := by
  rcases same with _ | ⟨stop, _ | ⟨profit, _ | _⟩⟩
  · exact .answerM rfl
  · exact .answerM rfl
  · refine .seqM (A := EndAlike Eq) ?_ fun r r' ends => ?_
    · rw [stop, profit]
      exact matches_tryStore (Store.matches_transaction (.ofRespects (respects_linkBoth _ _)))
    · cases ends with
      | ok _ => exact .answerM rfl
      | error same =>
        subst same
        exact SameIn.respects_notify _
  · exact .answerM rfl

theorem respects_protectionLegs (quantity : Float) :
    Respects (SameIn v held) (protectionLegs r quantity) := by
  have one (price : Option Float) (leg : Float → String → Leg) :
      Respects (SameIn v held) (protectionAt price leg) := by
    unfold protectionAt
    split
    · exact .seqM SameIn.respects_newClientId fun _ => .answerM _
    · exact .answerM []
  exact .seqM (one _ _) fun _ => .seqM (one _ _) fun _ => .answerM _

/-- **Protection** goes by the identifier and the quantity of its entry. -/
theorem matches_protect {entry entry' : Order} (same : entry.seen v = entry'.seen v) :
    Matches (SameIn v held) (EndAlike Eq) (protect ctx r entry).run (protect ctx r entry').run := by
  unfold protect
  rw [Order.id_eq_of_seen same, Order.quantity_eq_of_seen same]
  exact .after (.lift (respects_protectionLegs _)) fun legs =>
    .seq (matches_placeEach _ legs) fun _ _ placed => .lift (matches_linkProtection _ placed)

/-- **An order and its protection.** -/
theorem matches_placeProtected :
    Matches (SameIn v (some ctx)) (EndAlike fun t u => t.seen v = u.seen v)
      (placeProtected ctx r).run (placeProtected ctx r).run := by
  refine .seq (matches_placeSingle true) fun entry entry' filed => ?_
  dsimp only
  split
  · exact .seq (matches_protect filed.order) fun _ _ _ => .answer filed.ticket
  · exact .answer filed.ticket

end

/-! ## Placements -/

/-- **What is done in the context of a request.** Once the context was found, there is a
connection for it at both desks. -/
theorem matches_inContext {α : Type} {A : α → α → Prop} {f : Context → DeskM α}
    (ref : Reference) (r : OrderRequest) (user : String)
    (h : ∀ ctx, Matches (SameIn v (some ctx)) (EndAlike A) (f ctx).run (f ctx).run) :
    Matches (SameIn v none) (EndAlike A) (runFloor (Floor.context ref r user) >>= f).run
      (runFloor (Floor.context ref r user) >>= f).run := by
  intro d e same
  have finds := SameIn.respects_runFloor (Floor.respects_context ref r user) d e same
  refine .seq (Matches.ofRespects (SameIn.respects_runFloor (Floor.respects_context ref r user))
    d e same) fun ctx ctx' found found' eq => ?_
  subst eq
  have holds : SameIn v (some ctx) (runFloor (Floor.context ref r user) d).2
      (runFloor (Floor.context ref r user) e).2 :=
    { finds.2 with floor := finds.2.floor.hold (Prod.ext found rfl) (Prod.ext found' rfl) }
  obtain ⟨ends, after⟩ := h ctx _ _ holds
  exact ⟨ends, { after with floor := after.floor.release }⟩

theorem matches_createOrder (r : OrderRequest) (user : String) :
    Matches (SameIn v none) (EndAlike fun t u => t.seen v = u.seen v) (createOrder r user).run
      (createOrder r user).run :=
  .after (SameIn.respects_check _) fun _ => .after (SameIn.respects_check _) fun _ =>
    .look (fun _ _ h => by simp only [h.reference]) fun d =>
    matches_inContext d.reference r user fun ctx =>
    .seq (matches_placeSingle false) fun _ _ filed => .answer filed.ticket

theorem matches_placeManualOrder (r : OrderRequest) (user : String) :
    Matches (SameIn v none) (EndAlike fun t u => t.seen v = u.seen v)
      (placeManualOrder r user).run (placeManualOrder r user).run := by
  refine .after (SameIn.respects_check _) fun _ => .after (SameIn.respects_check _) fun _ =>
    .look (fun _ _ h => by simp only [h.reference]) fun d =>
    matches_inContext d.reference r user fun ctx => ?_
  split
  · exact matches_placeOco
  · exact matches_placeProtected

end Desk

/-- **A placement does the same** at desks that are the same in a view, up to what the view
leaves out of the order that is placed. -/
theorem Placement.matches_run {v : View} (p : Placement) :
    Matches (Desk.SameIn v none) (EndAlike fun t u => t.seen v = u.seen v) p.run.run p.run.run := by
  cases p with
  | byStrategy r user => exact Desk.matches_createOrder r user
  | byHand r user => exact Desk.matches_placeManualOrder r user

/-! ## What estimates never influence -/

/-- **Two floors are the same beside quotes**: nothing is different but what the venues answer
to questions about prices, books and fees, and whether they answer these at all. -/
structure Floor.SameBesideQuotes (f g : Floor) : Prop where
  /-- Connections, calls and notices are the same. -/
  rest : g = { f with venues := g.venues }
  venues : ∀ slug, Option.Rel (Venue.SameIn .orders) (f.venue? slug) (g.venue? slug)

/-- **Two desks are the same beside quotes.** -/
structure Desk.SameBesideQuotes (d e : Desk) : Prop where
  rest : e = { d with floor := e.floor }
  floor : d.floor.SameBesideQuotes e.floor

/-- Beside quotes is in the view of orders. -/
theorem Floor.SameBesideQuotes.sameIn {f g : Floor} (h : f.SameBesideQuotes g) :
    f.SameIn .orders none g := by
  have connections : g.connections = f.connections := (congrArg Floor.connections h.rest :)
  have journal : g.journal = f.journal := (congrArg Floor.journal h.rest :)
  have policy : g.policy = f.policy := (congrArg Floor.policy h.rest :)
  have making : g.making = f.making := (congrArg Floor.making h.rest :)
  refine ⟨fun slug => ?_, policy.symm, making.symm, fun slug user => ?_, ?_, fun _ mem => ?_,
    fun whole => ?_⟩
  · have venues := h.venues slug
    unfold script
    generalize f.venue? slug = a, g.venue? slug = b at venues ⊢
    cases venues with
    | some same => exact same
    | none => exact .refl _
  · have listed : (f.venue? slug).isSome = (g.venue? slug).isSome := by
      have venues := h.venues slug
      generalize f.venue? slug = a, g.venue? slug = b at venues ⊢
      cases venues <;> rfl
    unfold access connection? opening
    rw [connections, policy, making, listed]
  · unfold commands
    rw [journal]
  · cases mem
  · cases whole

theorem Desk.SameBesideQuotes.sameIn {d e : Desk} (h : d.SameBesideQuotes e) :
    d.SameIn .orders none e := by
  obtain ⟨rest, floor⟩ := h
  refine ⟨?_, floor.sameIn, ?_, ?_⟩ <;> rw [rest]
  exact .refl _

/-- **Estimates never influence a placement.** Two runs of one placement, at desks that are
the same beside quotes, end with the same order or with the same failure, have given the
same commands, and leave the same incidents and the same rows; only what is expected of the
orders that were placed may differ, and what the store said to a row that it did not take. -/
theorem Placement.estimates_never_influence (p : Placement) {d e : Desk}
    (same : d.SameBesideQuotes e) :
    (p.run d).1.map Ticket.unestimated = (p.run e).1.map Ticket.unestimated
    ∧ (p.run d).2.floor.commands = (p.run e).2.floor.commands
    ∧ List.Forall₂ (Incident.SameIn .orders) (p.run d).2.store.incidents
        (p.run e).2.store.incidents
    ∧ ∃ rows rows',
        (p.run d).2.store.ledger.rows = d.store.ledger.rows ++ rows
        ∧ (p.run e).2.store.ledger.rows = e.store.ledger.rows ++ rows'
        ∧ rows.map Order.unestimated = rows'.map Order.unestimated := by
  obtain ⟨ends, after⟩ := p.matches_run d e same.sameIn
  obtain ⟨t, leaves, -⟩ := p.leaves_run d
  obtain ⟨u, leaves', -⟩ := p.leaves_run e
  refine ⟨ends.map_eq fun _ _ seen => seen, after.floor.commands, after.store.incidents,
    t.rows, u.rows, leaves.wrote.rows, leaves'.wrote.rows, ?_⟩
  have store : e.store = d.store := (congrArg Desk.store same.rest :)
  have rows : (p.run d).2.store.ledger.rows.map (Order.seen .orders)
      = (p.run e).2.store.ledger.rows.map (Order.seen .orders) := after.store.rows
  rw [leaves.wrote.rows, leaves'.wrote.rows, store, List.map_append, List.map_append] at rows
  exact List.append_cancel_left rows

/-! ## Two small desks -/

/-- A small desk whose venue says nothing about prices, books and fees. -/
def Desk.unquoted (acks : List OrderAnswer) : Desk where
  reference := (small [] {}).reference
  floor :=
    { venues := [("binance",
        { markets := [("BTC/USDT", .object [("symbol", .text "BTC/USDT")])]
          acks := acks
          outages := [(.fetchTicker, "down"), (.fetchOrderBook, "down"),
            (.fetchTradingFees, "down")] })] }

/-- A small desk and one without quotes are the same beside quotes. -/
theorem Desk.sameBesideQuotes_small (acks : List OrderAnswer) :
    (small acks {}).SameBesideQuotes (unquoted acks) := by
  refine ⟨rfl, rfl, fun slug => ?_⟩
  by_cases here : slug = "binance"
  · subst here
    refine .some ⟨rfl, rfl, rfl, rfl, rfl, rfl, rfl, fun m seen => ?_, fun whole => nomatch whole⟩
    cases m with
    | fetchTicker | fetchOrderBook | fetchTradingFees => cases seen rfl
    | _ => rfl
  · have elsewhere : (slug == "binance") = false := beq_eq_false_iff_ne.mpr here
    unfold Floor.venue?
    rw [small, unquoted, List.lookup_cons, List.lookup_cons, elsewhere]
    exact .none

/-- On one of the two desks a fee is expected, and on the other one it is not. -/
theorem Placement.estimates_never_influence_oneCoin :
    (Desk.small [] {}).SameBesideQuotes (Desk.unquoted [])
    ∧ ((byStrategy Desk.oneCoin "u1").run (Desk.small [] {})).1.toOption.map
        (·.estimatedFee.isSome) = some true
    ∧ ((byStrategy Desk.oneCoin "u1").run (Desk.unquoted [])).1.toOption.map
        (·.estimatedFee.isSome) = some false
    ∧ ((byStrategy Desk.oneCoin "u1").run (Desk.small [] {})).1.map Ticket.unestimated
      = ((byStrategy Desk.oneCoin "u1").run (Desk.unquoted [])).1.map Ticket.unestimated :=
  ⟨Desk.sameBesideQuotes_small [], by decide +kernel, by decide +kernel,
    ((byStrategy Desk.oneCoin "u1").estimates_never_influence
      (Desk.sameBesideQuotes_small [])).1⟩

/-- An answer with a client identifier that no row can hold. -/
def OrderAnswer.unholdable : OrderAnswer :=
  .accepted (.object [("clientOrderId", .list [.null])])

/-- What a small desk would store of that answer. -/
def Ticket.unheld : Ticket :=
  let held := (Placement.byStrategy Desk.oneCoin "u1").run (Desk.small [.accepted (.object [])] {})
  { held.1.toOption.getD {} with clientId := .list [.null] }

/-- The divergence that it comes to, by what the store says to a ticket. -/
def Divergence.unheld (t : Ticket) : Divergence where
  operation := "place order"
  venueOrderIds := ["v1"]
  symbol := "BTC/USDT"
  quantity := 1.0
  user := some "u1"
  request := .object Desk.oneCoin.toForm
  error := some ((Objection.unbindable "client_order_id" .list).fault t).message

/-- The error is among what is known of a divergence. -/
theorem Divergence.error_eq_of_metadata {dv dv' : Divergence} (h : dv.metadata = dv'.metadata) :
    dv.error = dv'.error := by
  unfold metadata at h
  simp only [Payload.object.injEq, List.cons.injEq, Prod.mk.injEq, true_and, and_true] at h
  obtain ⟨-, -, -, -, same⟩ := h
  generalize dv.error = e, dv'.error = e' at same ⊢
  cases e with
  | none =>
    cases e' with
    | none => rfl
    | some t => cases same
  | some s =>
    cases e' with
    | none => cases same
    | some t =>
      cases same
      rfl

/-- **Incidents show estimates**, where the store itself does not take the row. -/
theorem Placement.incidents_show_estimates :
    ¬ ∀ (p : Placement) (d e : Desk), d.SameBesideQuotes e →
        (p.run d).2.store.incidents = (p.run e).2.store.incidents := by
  intro always
  have same := congrArg (List.map (·.metadata)) <|
    always (byStrategy Desk.oneCoin "u1") _ _ (Desk.sameBesideQuotes_small [.unholdable])
  have quoted : ((byStrategy Desk.oneCoin "u1").run
      (Desk.small [.unholdable] {})).2.store.incidents.map (·.metadata)
        = [(Divergence.unheld .unheld).metadata] := by
    with_unfolding_all rfl
  have unquoted : ((byStrategy Desk.oneCoin "u1").run
      (Desk.unquoted [.unholdable])).2.store.incidents.map (·.metadata)
        = [(Divergence.unheld Ticket.unheld.unestimated).metadata] := by
    with_unfolding_all rfl
  rw [quoted, unquoted] at same
  have texts := Divergence.error_eq_of_metadata (List.cons.inj same).1
  have estimated : Ticket.unheld.estimatedFee.isSome = true := by decide +kernel
  exact Objection.text_ne_unestimated (.unbindable "client_order_id" .list) estimated
    (Option.some.inj texts)

end OrderDesk

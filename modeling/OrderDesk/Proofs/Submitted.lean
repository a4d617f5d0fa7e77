import OrderDesk.Proofs.Passing
import OrderDesk.Proofs.Placements

/-!
# What is submitted has been measured

An order is measured by the market that the venue lists, and only then submitted: an order
that is placed for itself, and each half of a pair, by what it asks for. A protective order
is attached as well as may be to an entry that stands, and is not measured. No placement
submits anything else.
-/

namespace OrderDesk

/-- Whatever a leg is shaped to, over the connection of a context, has a property. -/
def Leg.Shapes (leg : Leg) (ctx : Context) (P : String → Submission → Prop) : Prop :=
  ∀ order, (leg.instruction ctx.symbol).shape ctx.slug = .ok order → P ctx.slug order

/-! ## Between two states -/

namespace Floor

/-- **Only orders with a property were submitted** between two states of the floor. -/
def SubmitsOnly (P : String → Submission → Prop) (f g : Floor) : Prop :=
  ∃ commands, g.commands = f.commands ++ commands
    ∧ ∀ slug order, .submitted slug order ∈ commands → P slug order

variable {P : String → Submission → Prop} {f g h : Floor}

/-- No command was given. -/
theorem SubmitsOnly.of_eq (same : g.commands = f.commands) : SubmitsOnly P f g :=
  ⟨[], by rw [same, List.append_nil], fun _ _ none => nomatch none⟩

theorem Reads.submitsOnly (reads : f.Reads g) : SubmitsOnly P f g := .of_eq reads.commands

instance (P : String → Submission → Prop) : IsPreorder Floor (SubmitsOnly P) where
  refl _ := .of_eq rfl
  trans _ _ _ := by
    rintro ⟨c, first, one⟩ ⟨c', second, other⟩
    refine ⟨c ++ c', by rw [second, first, List.append_assoc], fun slug order mem => ?_⟩
    exact (List.mem_append.mp mem).elim (one slug order) (other slug order)

/-- More orders may be submitted. -/
theorem SubmitsOnly.mono {Q : String → Submission → Prop} (h : SubmitsOnly P f g)
    (more : ∀ slug order, P slug order → Q slug order) : SubmitsOnly Q f g := by
  obtain ⟨commands, after, all⟩ := h
  exact ⟨commands, after, fun slug order mem => more slug order (all slug order mem)⟩

/-- **The submission of a leg** submits what the leg is shaped to. -/
theorem submitsOnly_submit {ctx : Context} {leg : Leg} (shapes : leg.Shapes ctx P)
    (operation : String) : Keeps (SubmitsOnly P) (submit ctx leg operation).run := by
  intro f
  have one : ∀ {order g a}, (leg.instruction ctx.symbol).shape ctx.slug = .ok order →
      Said ctx.slug f g [.submitted ctx.slug order] a → SubmitsOnly P f g := by
    intro order g a shaped said
    refine ⟨_, said.commands, fun slug other mem => ?_⟩
    cases List.mem_singleton.mp mem
    exact shapes order shaped
  have ends := submits ctx leg operation f
  show SubmitsOnly P f (submit ctx leg operation f).2
  generalize (submit ctx leg operation f).1 = r at ends
  generalize (submit ctx leg operation f).2 = g at ends
  cases ends with
  | taken shaped read said => exact one shaped said
  | unshaped shaped said => exact ⟨_, said.commands, fun _ _ none => nomatch none⟩
  | failed shaped noAck said => exact one shaped said

/-- **Taking a leg back** submits nothing. -/
theorem submitsOnly_compensate (ctx : Context) (ack : Ack) :
    Keeps (SubmitsOnly P) (Desk.compensate ctx ack) :=
  fun f => ⟨_, (Desk.said_compensate ctx ack f).commands, fun slug order mem => by
    cases List.mem_singleton.mp mem⟩

/-- **The submission of a pair** submits what its legs are shaped to. -/
theorem submitsOnly_submitBoth {ctx : Context} {profit stop : Leg}
    (profits : profit.Shapes ctx P) (stops : stop.Shapes ctx P) :
    Keeps (SubmitsOnly P) (Desk.submitBoth ctx profit stop).run := by
  refine .seq (submitsOnly_submit profits _) fun first => .seq (fun f => ?_) fun _ => .answer _
  have second := submitsOnly_submit stops "place stop-loss order" f
  show SubmitsOnly P f (Desk.submitSecond ctx stop first f).2
  rcases ran : submit ctx stop "place stop-loss order" f with ⟨e | ack, g⟩
  · rw [Desk.submitSecond_of_error ran]
    rw [show (submit ctx stop "place stop-loss order").run f = _ from ran] at second
    exact trans_of (SubmitsOnly P) second (submitsOnly_compensate ctx first g)
  · rw [Desk.submitSecond_of_ok ran]
    rwa [show (submit ctx stop "place stop-loss order").run f = _ from ran] at second

end Floor

namespace Desk

/-! ## Operations of the desk -/

/-- **Only orders with a property were submitted** between two states of the desk. -/
def SubmitsOnly (P : String → Submission → Prop) (d d' : Desk) : Prop :=
  d.floor.SubmitsOnly P d'.floor

instance (P : String → Submission → Prop) : IsPreorder Desk (SubmitsOnly P) where
  refl d := refl_of (Floor.SubmitsOnly P) d.floor
  trans _ _ _ h k := trans_of (Floor.SubmitsOnly P) h k

section

variable {α : Type} {P : String → Submission → Prop} {ctx : Context}

/-- What leaves the floor alone submits nothing. -/
theorem submitsOnly_of_floor {x : StateM Desk α} (same : ∀ d, (x d).2.floor = d.floor) :
    Keeps (SubmitsOnly P) x :=
  fun d => .of_eq (by rw [same d])

theorem submitsOnly_runFloor {x : FloorM α} (h : Keeps (Floor.SubmitsOnly P) x.run) :
    Keeps (SubmitsOnly P) (runFloor x).run :=
  fun d => h d.floor

/-- What only asks submits nothing. -/
theorem submitsOnly_asks {x : FloorM α} (h : Keeps Floor.Reads x.run) :
    Keeps (SubmitsOnly P) (runFloor x).run :=
  fun d => (h d.floor).submitsOnly

theorem submitsOnly_tryStore (x : StoreM α) : Keeps (SubmitsOnly P) (tryStore x) :=
  submitsOnly_of_floor fun _ => rfl

theorem submitsOnly_runStore (x : StoreM α) : Keeps (SubmitsOnly P) (runStore x).run :=
  submitsOnly_of_floor fun _ => rfl

theorem submitsOnly_notify (n : Notice) : Keeps (SubmitsOnly P) (notify n) :=
  fun _ => .of_eq rfl

theorem submitsOnly_clientIdOr (given : Option String) :
    Keeps (SubmitsOnly P) (clientIdOr given) :=
  submitsOnly_of_floor (floor_clientIdOr given)

theorem submitsOnly_escalateAndFail (dv : Divergence) (operation : String) :
    Keeps (SubmitsOnly P) (escalateAndFail (α := α) dv operation).run := by
  exact .seq (.lift (.seqM (submitsOnly_notify _) fun _ => .triedM (submitsOnly_tryStore _)
    (fun _ => .answerM _) fun _ => submitsOnly_notify _)) fun _ => .fail _

/-! ### Single orders -/

/-- **From the submission of a single order on**, what its leg is shaped to is submitted. -/
theorem submitsOnly_executeSingle {leg : Leg} (shapes : leg.Shapes ctx P) (r : OrderRequest)
    (marks : Leg.Marks) : Keeps (SubmitsOnly P) (executeSingle ctx r leg marks).run :=
  .seq (submitsOnly_runFloor (Floor.submitsOnly_submit shapes _)) fun _ =>
    .tried (submitsOnly_tryStore _) (fun _ => .answer _) fun _ => submitsOnly_escalateAndFail _ _

/-- What was made ready for a single order has been measured. -/
theorem measured_of_prepareSingle {ref : Reference} {r : OrderRequest} {f g : Floor}
    {v : ValidatedOrder} {estimated : Option FeeEstimate × Option Float}
    (positive : r.IsPositive) (h : prepareSingle ref ctx r f = (.ok (v, estimated), g)) :
    f.marketOf? ctx.slug ctx.symbol = some v.market ∧ r.Measured v.market v := by
  obtain ⟨markets, f₁, loaded, h⟩ := Run.of_bind_ok h
  obtain ⟨v', f₂, checked, h⟩ := Run.of_bind_ok h
  obtain ⟨estimate, f₃, -, h⟩ := Run.of_bind_ok h
  cases h
  rw [Floor.marketOf?_of_fetchMarkets loaded]
  exact OrderRequest.measured_of_validate positive (congrArg Prod.fst checked)

/-- **A single order** that is submitted passes. -/
theorem submitsOnly_placeSingle {r : OrderRequest} {d : Desk} (positive : r.IsPositive)
    (supported : Venue.supports ctx.slug r.type = true)
    (takes : ∀ order, r.PassesOn d.floor ctx.slug order → P ctx.slug order) (isManual : Bool) :
    SubmitsOnly P d (placeSingle ctx r isManual d).2 := by
  unfold placeSingle
  rw [Run.get_bind]
  refine Keeps.seqAt (submitsOnly_asks (keeps_prepareSingle d.reference ctx r) d)
    fun ⟨v, fee, slippage⟩ d₁ prepared => .seq (.lift (submitsOnly_clientIdOr _)) fun clientId =>
    .seq (submitsOnly_runStore _) fun _ => submitsOnly_executeSingle (fun order shaped => ?_) r _
  obtain ⟨found, measured⟩ := measured_of_prepareSingle positive (of_runFloor prepared).1
  obtain ⟨same, passes⟩ := passes_singleLeg positive supported measured shaped
  exact takes order ⟨v.market, same ▸ found, passes⟩

/-! ### Pairs -/

/-- What was made ready for a pair has been measured. -/
theorem measured_of_prepareOco {ref : Reference} {r : OrderRequest} {f g : Floor}
    {profit stop : ValidatedOrder} {fee : Option FeeEstimate} (positive : r.IsPositive)
    (h : prepareOco ref ctx r f = (.ok (profit, stop, fee), g)) :
    (f.marketOf? ctx.slug ctx.symbol = some profit.market
      ∧ (profitRequest r).Measured profit.market profit)
    ∧ f.marketOf? ctx.slug ctx.symbol = some stop.market
      ∧ (stopRequest r).Measured stop.market stop := by
  obtain ⟨markets, f₁, loaded, h⟩ := Run.of_bind_ok h
  obtain ⟨profit', f₂, checked, h⟩ := Run.of_bind_ok h
  obtain ⟨stop', f₃, checked', h⟩ := Run.of_bind_ok h
  obtain ⟨estimate, f₄, -, h⟩ := Run.of_bind_ok h
  cases h
  rw [Floor.marketOf?_of_fetchMarkets loaded]
  exact ⟨OrderRequest.measured_of_validate (isPositive_profitRequest positive)
      (congrArg Prod.fst checked),
    OrderRequest.measured_of_validate (isPositive_stopRequest positive)
      (congrArg Prod.fst checked')⟩

/-- **Both halves of a pair** that are submitted pass. -/
theorem submitsOnly_placeOco {r : OrderRequest} {d : Desk} (positive : r.IsPositive)
    (supported : Venue.supports ctx.slug .oco = true)
    (takes : ∀ q ∈ [profitRequest r, stopRequest r], ∀ order,
      q.PassesOn d.floor ctx.slug order → P ctx.slug order) :
    SubmitsOnly P d (placeOco ctx r d).2 := by
  unfold placeOco
  rw [Run.get_bind]
  refine Keeps.seqAt (submitsOnly_asks (keeps_prepareOco d.reference ctx r) d)
    fun ⟨profit, stop, fee⟩ d₁ prepared => .seq (.lift (submitsOnly_clientIdOr _)) fun baseId =>
    .seq (submitsOnly_runFloor (Floor.submitsOnly_submitBoth (fun order shaped => ?_)
      fun order shaped => ?_)) fun acks => .tried (submitsOnly_tryStore _) (fun _ => .answer _)
      fun _ => submitsOnly_escalateAndFail _ _
  · obtain ⟨⟨found, measured⟩, -⟩ := measured_of_prepareOco positive (of_runFloor prepared).1
    obtain ⟨same, passes⟩ := passes_profitLeg measured shaped
    exact takes _ (List.mem_cons_self ..) order ⟨profit.market, same ▸ found, passes⟩
  · obtain ⟨-, found, measured⟩ := measured_of_prepareOco positive (of_runFloor prepared).1
    obtain ⟨same, passes⟩ := passes_stopLeg positive supported measured shaped
    exact takes _ (List.mem_cons_of_mem _ (List.mem_singleton.mpr rfl)) order
      ⟨stop.market, same ▸ found, passes⟩

/-! ### Protection -/

theorem submitsOnly_placeProtection {leg : Leg} (shapes : leg.Shapes ctx P) :
    Keeps (SubmitsOnly P) (placeProtection ctx leg).run :=
  .seq (submitsOnly_runFloor (Floor.submitsOnly_submit shapes _)) fun _ =>
    .seq (submitsOnly_runStore _) fun _ =>
    .tried (submitsOnly_tryStore _) (fun _ => .answer _) fun _ => submitsOnly_escalateAndFail _ _

theorem submitsOnly_placeEach (entryId : String) {legs : List Leg}
    (shapes : ∀ leg ∈ legs, leg.Shapes ctx P) :
    Keeps (SubmitsOnly P) (placeEach ctx entryId legs).run := by
  induction legs with
  | nil => exact .answer []
  | cons leg rest ih =>
    have later := ih fun leg mem => shapes leg (List.mem_cons_of_mem _ mem)
    refine .tried (submitsOnly_placeProtection (shapes leg (List.mem_cons_self ..)))
      (fun _ => .seq later fun _ => .answer _) fun e => ?_
    dsimp only
    split
    · exact .seq (.lift (submitsOnly_notify _)) fun _ => later
    · exact .fail e

/-- **The protection of an entry** submits protective orders. -/
theorem submitsOnly_protect {r : OrderRequest} {entry : Order} (positive : r.IsPositive)
    (protects : ∀ order, r.Protects entry.quantity order → P ctx.slug order) :
    Keeps (SubmitsOnly P) (protect ctx r entry).run := by
  intro d
  have linking : ∀ placed, Keeps (SubmitsOnly P) (linkProtection entry.id placed) := by
    intro placed
    unfold linkProtection
    split
    · exact .triedM (submitsOnly_tryStore _) (fun _ => .answerM _) fun _ => submitsOnly_notify _
    · exact .answerM _
  have made := (keeps_protectionLegs ctx.slug r entry.quantity d).commands
  rw [List.append_nil] at made
  refine Keeps.seqAt (x := liftM (protectionLegs r entry.quantity)) (.of_eq made)
    fun legs d₁ ran =>
    .seq (submitsOnly_placeEach entry.id fun leg mem order shaped => protects order ?_)
      fun placed => .lift (linking placed)
  cases ran
  rcases of_protectionLegs mem with ⟨x, id, stated, rfl⟩ | ⟨x, id, stated, rfl⟩
  · have price := OrderRequest.of_stated stated
    exact (protects_of_shape (positive.stopLossPrice x price)).1 price shaped
  · have price := OrderRequest.of_stated stated
    exact (protects_of_shape (positive.takeProfitPrice x price)).2 price shaped

/-- **An entry and its protection.** -/
theorem submitsOnly_placeProtected {r : OrderRequest} {d : Desk} (positive : r.IsPositive)
    (supported : Venue.supports ctx.slug r.type = true)
    (takes : ∀ order, r.PassesOn d.floor ctx.slug order → P ctx.slug order)
    (protects : ∀ entry later order,
      (placeProtected ctx r d).2.store.ledger.rows = d.store.ledger.rows ++ entry :: later →
      r.Protects entry.quantity order → P ctx.slug order) :
    SubmitsOnly P d (placeProtected ctx r d).2 := by
  have single := submitsOnly_placeSingle positive supported takes true
  have placed := placesOne_placeSingle ctx r true d
  unfold placeProtected at protects ⊢
  rw [Run.bind_apply] at protects ⊢
  rcases ran : placeSingle ctx r true d with ⟨e | filed, d₁⟩ <;>
    rw [ran] at single placed protects
  · exact single
  cases placed with
  | placed read is leaves =>
    obtain ⟨rfl, -⟩ := is
    refine trans_of (SubmitsOnly P) single ?_
    dsimp only at protects ⊢
    split at protects
    case isTrue asks =>
      rw [if_pos asks, Run.map_apply]
      rw [Run.map_apply] at protects
      obtain ⟨t, left, -⟩ := leaves_protect ctx r filed.order d₁
      refine submitsOnly_protect positive (fun order => protects filed.order t.rows order ?_) d₁
      exact ((leaves.trans left).wrote.rows)
    case isFalse bare =>
      rw [if_neg bare]
      exact refl_of (SubmitsOnly P) d₁

end

end Desk

/-! ## Placements -/

namespace Placement

/-- What is asked for. -/
def request : Placement → OrderRequest
  | byStrategy r _ => r
  | byHand r _ => r

/-- **The requests of a placement that are measured**: both halves of a pair, and otherwise
what is asked for. -/
def parts : Placement → List OrderRequest
  | byStrategy r _ => [r]
  | byHand r _ => if r.type = .oco then [Desk.profitRequest r, Desk.stopRequest r] else [r]

/-- **What a placement may submit** at a desk. -/
inductive Sends (p : Placement) (d : Desk) (order : Submission) : Prop where
  /-- An order that passes, placed for itself or as half of a pair. -/
  | measured {r : OrderRequest} (part : r ∈ p.parts)
      (passes : r.PassesOn d.floor p.venue order) : Sends p d order
  /-- A protective order for the entry whose row was written first. -/
  | protective {r : OrderRequest} {user : String} {entry : Order} {later : List Order}
      (byHand : p = .byHand r user) (single : r.type ≠ .oco)
      (rows : (p.run d).2.store.ledger.rows = d.store.ledger.rows ++ entry :: later)
      (protects : r.Protects entry.quantity order) : Sends p d order

/-- An order that passes after the desk has only asked has passed before. -/
theorem passesOn_of_asks {r : OrderRequest} {d d₁ : Desk} {slug : String} {order : Submission}
    (asks : Desk.Asks d d₁) (passes : r.PassesOn d₁.floor slug order) :
    r.PassesOn d.floor slug order := by
  obtain ⟨m, found, passes⟩ := passes
  exact ⟨m, asks.reads.marketOf? slug order.symbol ▸ found, passes⟩

/-- The venue takes the orders that a strategy may place. -/
theorem supported_of_automated {type : OrderType} {why : Refusal} (slug : String)
    (h : Market.refuseIf (!Desk.automatedTypes.contains type) why = .ok ()) :
    Venue.supports slug type = true := by
  have automated : Desk.automatedTypes.contains type = true :=
    (Bool.not_eq_false' _).mp (Market.of_refuseIf h)
  obtain ⟨market, limit, -⟩ := Venue.supports_basic slug
  rcases List.mem_cons.mp (List.contains_iff_mem.mp automated) with rfl | last
  · exact market
  · rwa [List.mem_singleton.mp last]

/-- **A placement** by somebody who asks for numbers above zero. -/
theorem submitsOnly_run (p : Placement) (d : Desk) (positive : p.request.IsPositive) :
    Desk.SubmitsOnly (fun slug order => slug = p.venue ∧ p.Sends d order) d (p.run d).2 := by
  cases p with
  | byStrategy r user =>
    rcases ran : Desk.createOrder r user d with ⟨res, d'⟩
    show Desk.SubmitsOnly _ d (Desk.createOrder r user d).2
    rw [ran]
    rcases Desk.opening_asks (Market.own_refuseIf _ _) r.own_ensureComplete ran with
      ⟨e, rfl, -, asks⟩ | ⟨ctx, d₁, next, venue, -, automated, -, asks⟩
    · exact asks.reads.submitsOnly
    refine trans_of (Desk.SubmitsOnly _) asks.reads.submitsOnly ?_
    rw [Run.map_apply] at next
    cases next
    refine Desk.submitsOnly_placeSingle positive (supported_of_automated _ automated)
      (fun order passes => ⟨venue, ?_⟩) false
    rw [venue] at passes
    exact .measured (List.mem_singleton.mpr rfl) (passesOn_of_asks asks passes)
  | byHand r user =>
    change r.IsPositive at positive
    rcases ran : Desk.placeManualOrder r user d with ⟨res, d'⟩
    have ends : ((byHand r user).run d).2 = d' := congrArg Prod.snd ran
    rw [ends]
    rcases Desk.opening_asks r.own_ensureComplete (OrderRequest.own_ensureSupported _ _) ran with
      ⟨e, rfl, -, asks⟩ | ⟨ctx, d₁, next, venue, -, -, supported, asks⟩
    · exact asks.reads.submitsOnly
    refine trans_of (Desk.SubmitsOnly _) asks.reads.submitsOnly ?_
    have takes : Venue.supports ctx.slug r.type = true := by
      rw [venue]
      exact (Bool.not_eq_false' _).mp (Market.of_refuseIf supported)
    have measured : ∀ q ∈ (byHand r user).parts, ∀ order, q.PassesOn d₁.floor ctx.slug order →
        ctx.slug = r.venue ∧ (byHand r user).Sends d order := by
      intro q part order passes
      rw [venue] at passes
      exact ⟨venue, .measured part (passesOn_of_asks asks passes)⟩
    by_cases pair : r.type = .oco
    · have parts : (byHand r user).parts = [Desk.profitRequest r, Desk.stopRequest r] :=
        if_pos pair
      rw [beq_iff_eq.mpr pair] at next
      rw [pair] at takes
      rw [parts] at measured
      have ended : (Desk.placeOco ctx r d₁).2 = d' := congrArg Prod.snd next
      rw [← ended]
      exact Desk.submitsOnly_placeOco positive takes measured
    · have parts : (byHand r user).parts = [r] := if_neg pair
      rw [beq_eq_false_iff_ne.mpr pair] at next
      rw [parts] at measured
      have ended : (Desk.placeProtected ctx r d₁).2 = d' := congrArg Prod.snd next
      rw [← ended]
      refine Desk.submitsOnly_placeProtected positive takes
        (measured r (List.mem_singleton.mpr rfl)) fun entry later order rows protects => ?_
      rw [ended, ← ends, asks.store] at rows
      exact ⟨venue, .protective rfl pair rows protects⟩

end Placement

end OrderDesk

import OrderDesk.Proofs.Wording

/-!
# What is asked for reaches the venue

An order that can be put into the venue's words is submitted. Between the validation and the
submission a single order is estimated, which never stands in its way, and a transaction is
begun, which does when it fails: the venue is not asked for an order that could not be written
down. A pair is submitted before its transaction is begun. So the venue is asked for every
pair that is cleared, and for every single order that is cleared while the store begins
transactions.
-/

namespace OrderDesk

namespace Desk

/-! ## Single orders -/

section

variable {ctx : Context} {r : OrderRequest} {markets : List Market} {d : Desk}

/-- The identifier that an order is given. -/
theorem clientIdOr_fst (r : OrderRequest) (d : Desk) :
    (clientIdOr r.clientId d).1 = r.idAfter d.clientIds := by
  unfold clientIdOr OrderRequest.idAfter
  cases r.clientId.filter (!·.isEmpty) <;> rfl

/-- **A valid single order is ready to be submitted**: the estimate does not stand in its way. -/
theorem prepareSingle_of_valid {v : ValidatedOrder} {f g : Floor} (ref : Reference)
    (loaded : Floor.speak ctx Line.fetchMarkets f = (.ok markets, g))
    (valid : r.validate ctx.symbol markets = .ok v) :
    ∃ fee slippage h, prepareSingle ref ctx r f = (.ok (v, fee, slippage), h) := by
  unfold prepareSingle
  rw [Run.bind_apply, loaded]
  dsimp only
  rw [valid]
  exact ⟨_, _, _, rfl⟩

/-- The submission of a single order is the one command that is given. -/
theorem commands_executeSingle {leg : Leg} {order : Submission} (shaped : ShapedAs ctx leg order)
    (r : OrderRequest) (marks : Leg.Marks) (d : Desk) :
    (executeSingle ctx r leg marks d).2.floor.commands
      = d.floor.commands ++ [.submitted ctx.slug order] := by
  unfold Floor.commands
  rw [journal_executeSingle shaped, List.filter_append]
  rfl

/-- **A single order is submitted** once it is ready, unless the store begins no transaction. -/
theorem commands_placeSingle {v : ValidatedOrder} {fee : Option FeeEstimate}
    {slippage : Option Float} {g : Floor} {order : Submission}
    (prepared : prepareSingle d.reference ctx r d.floor = (.ok (v, fee, slippage), g))
    (shaped : ShapedAs ctx (singleLeg r v (r.idAfter d.clientIds)) order) (isManual : Bool) :
    ((Store.beginTransaction d.store).1 ≠ .ok ()
      ∧ ∃ e d', placeSingle ctx r isManual d = (.error e, d')
        ∧ d'.floor.commands = d.floor.commands)
    ∨ (Store.beginTransaction d.store).1 = .ok ()
      ∧ (placeSingle ctx r isManual d).2.floor.commands
        = d.floor.commands ++ [.submitted ctx.slug order] := by
  have reads := keeps_prepareSingle d.reference ctx r d.floor
  rw [show (prepareSingle d.reference ctx r).run d.floor = _ from prepared] at reads
  have floor : (clientIdOr r.clientId { d with floor := g }).2.floor = g := floor_clientIdOr _ _
  have store : (clientIdOr r.clientId { d with floor := g }).2.store = d.store :=
    store_clientIdOr _ _
  unfold placeSingle
  rw [Run.get_bind, Run.bind_apply, runFloor_apply, prepared]
  dsimp only
  rw [Run.lift_bind, clientIdOr_fst]
  generalize (clientIdOr r.clientId { d with floor := g }).2 = d₁ at floor store
  rw [Run.bind_apply, runStore_apply, store, ← reads.commands, ← floor]
  cases (Store.beginTransaction d.store).1 with
  | error e => exact .inl ⟨nofun, _, _, rfl, rfl⟩
  | ok _ => exact .inr ⟨rfl, commands_executeSingle shaped r _ _⟩

/-- **Only protection comes after the entry**, whatever becomes of the entry. -/
theorem submitsOnly_after_placeSingle (positive : r.IsPositive) (ctx : Context) (d : Desk) :
    SubmitsOnly (fun slug order => slug = ctx.slug ∧ ∃ quantity, r.Protects quantity order)
      (placeSingle ctx r true d).2 (placeProtected ctx r d).2 := by
  unfold placeProtected
  rw [Run.bind_apply]
  rcases placeSingle ctx r true d with ⟨e | filed, d₁⟩
  · exact refl_of (SubmitsOnly _) d₁
  dsimp only
  by_cases asks : asksForProtection r = true
  · rw [if_pos asks, Run.map_apply]
    exact submitsOnly_protect positive (fun order protects => ⟨rfl, _, protects⟩) d₁
  · rw [if_neg asks]
    exact refl_of (SubmitsOnly _) d₁

end

/-! ## Pairs -/

/-- **A pair is submitted**: the first order, and the second one when the first was
acknowledged. When the second one was not, the first is taken back. -/
inductive SubmitsPair (ctx : Context) (p q : Submission) (t : Trail) : Prop where
  /-- The first order was not acknowledged. -/
  | first (noAck : p.NoAck t.accepted) (said : t.commands = [.submitted ctx.slug p])
  /-- The second order was not acknowledged, and the first was taken back. -/
  | takenBack {answer : Payload} {first : Ack} {accepted : List (Submission × Payload)}
      (read : p.readAck answer = .ok first) (noAck : q.NoAck accepted)
      (heard : t.accepted = (p, answer) :: accepted)
      (said : t.commands = [.submitted ctx.slug p, .submitted ctx.slug q,
        .canceled ctx.slug first.id ctx.symbol])
  /-- Both orders were acknowledged. -/
  | both {answer answer' : Payload} {first second : Ack} (read : p.readAck answer = .ok first)
      (read' : q.readAck answer' = .ok second)
      (heard : t.accepted = [(p, answer), (q, answer')])
      (said : t.commands = [.submitted ctx.slug p, .submitted ctx.slug q])

section

variable {ctx : Context} {r : OrderRequest} {markets : List Market} {d : Desk}

/-- **The legs of a pair are submitted**, and what is done with the answers is not heard. -/
theorem submitsPair_executeOco {profit stop : Leg} {p q : Submission}
    (shaped : ShapedAs ctx profit p) (shaped' : ShapedAs ctx stop q) (r : OrderRequest)
    (fee : Option FeeEstimate) (d : Desk) :
    ∃ t, Leaves ctx.slug d (executeOco ctx r profit stop fee d).2 t ∧ SubmitsPair ctx p q t := by
  rcases spoken : runFloor (submitBoth ctx profit stop) d with ⟨both, d₁⟩
  obtain ⟨submitted, only⟩ := of_runFloor spoken
  unfold executeOco
  rw [Run.bind_apply, spoken]
  rcases submitBoth_cases shaped shaped' submitted with
    ⟨reason, accepted, rfl, noAck, said⟩
    | ⟨reason, answer, first, accepted, rfl, read, noAck, said⟩
    | ⟨answer, answer', first, second, rfl, read, read', said⟩
  · exact ⟨_, leaves_of_floor only said, .first noAck rfl⟩
  · exact ⟨_, leaves_of_floor only said, .takenBack read noAck rfl rfl⟩
  · have stand : Leaves ctx.slug d d₁ _ := leaves_of_floor only said
    dsimp only
    rw [Run.lift_bind]
    rcases tried : tryStore (Store.transaction (writeOco ctx profit stop (first, second) fee))
      d₁ with ⟨written, d₂⟩
    obtain ⟨wrote, only'⟩ := of_tryStore tried
    rcases writeOco_cases wrote with ⟨fault, rfl, idle⟩ | ⟨ticket, a, b, rfl, rows, -⟩
    · have kept : Silent ctx.slug d₁ d₂ := leaves_of_store only' idle.wrote
      obtain ⟨t, shown, left⟩ := leaves_escalate _ d₂
      refine ⟨_, (stand.done kept).trans left, .both read read' ?_ ?_⟩
      · exact congrArg ([_, _] ++ ·) (Trail.accountedFor_of_shown shown).2
      · exact congrArg ([_, _] ++ ·) shown.commands
    · have filing : Leaves ctx.slug d₁ d₂ { rows := [a, b] } := leaves_of_store only' rows
      exact ⟨_, stand.trans filing, .both read read' rfl rfl⟩

/-- **A valid pair is ready to be submitted.** -/
theorem prepareOco_of_valid {profit stop : ValidatedOrder} {f g : Floor} (ref : Reference)
    (loaded : Floor.speak ctx Line.fetchMarkets f = (.ok markets, g))
    (valid : (profitRequest r).validate ctx.symbol markets = .ok profit)
    (valid' : (stopRequest r).validate ctx.symbol markets = .ok stop) :
    ∃ fee h, prepareOco ref ctx r f = (.ok (profit, stop, fee), h) := by
  unfold prepareOco
  rw [Run.bind_apply, loaded]
  dsimp only
  rw [valid, valid']
  exact ⟨_, _, rfl⟩

/-- **A pair is submitted** once it is ready. -/
theorem submitsPair_placeOco {profit stop : ValidatedOrder} {fee : Option FeeEstimate}
    {g : Floor} {p q : Submission}
    (prepared : prepareOco d.reference ctx r d.floor = (.ok (profit, stop, fee), g))
    (shaped : ShapedAs ctx (profitLeg r profit (r.idAfter d.clientIds)) p)
    (shaped' : ShapedAs ctx (stopLeg r stop (r.idAfter d.clientIds)) q) :
    ∃ t, Leaves ctx.slug d (placeOco ctx r d).2 t ∧ SubmitsPair ctx p q t := by
  have silent : Silent ctx.slug d (runFloor (prepareOco d.reference ctx r) d).2 :=
    keeps_runFloor (keeps_prepareOco d.reference ctx r) d
  unfold placeOco
  rw [Run.get_bind, Run.bind_apply]
  rw [runFloor_apply, prepared] at silent ⊢
  dsimp only
  rw [Run.lift_bind, clientIdOr_fst]
  obtain ⟨t, leaves, submits⟩ := submitsPair_executeOco shaped shaped' r fee
    (clientIdOr r.clientId { d with floor := g }).2
  exact ⟨t, silent.then (Silent.then (keeps_clientIdOr r.clientId _) leaves), submits⟩

end

end Desk

/-! ## Placements -/

namespace Placement

open Desk (Leaves)

/-- **A placement is of an allowed type**: one that a strategy may place or, by hand, one that
the venue supports. -/
def IsAllowed : Placement → Prop
  | byStrategy r _ => r.type ∈ Desk.automatedTypes
  | byHand r _ => Venue.supports r.venue r.type = true

/-- **A placement is cleared**: what is asked for is complete and of an allowed type, and it is
valid, or both its halves are, by the markets that the venue lists. -/
structure IsCleared (p : Placement) (d : Desk) (ctx : Context) (f : Floor)
    (markets : List Market) : Prop where
  allowed : p.IsAllowed
  opens : p.Opens d ctx f
  loaded : ∃ g, Floor.speak ctx Line.fetchMarkets f = (.ok markets, g)
  valid : ∀ r ∈ p.parts, ∃ v, r.validate ctx.symbol markets = .ok v

/-- **What a venue hears of a placement.** -/
inductive Reaches (p : Placement) (d : Desk) (ctx : Context) (markets : List Market)
    (t : Trail) : Prop where
  /-- The store began no transaction, and nothing was said. -/
  | withheld (single : p.isPair = false) (stuck : (Store.beginTransaction d.store).1 ≠ .ok ())
      (silent : t.commands = [])
  /-- The venue was asked for the order, and after it for no order but its protection. -/
  | single {v : ValidatedOrder} {order : Submission} {later : List JournalEntry}
      (single : p.isPair = false) (begins : (Store.beginTransaction d.store).1 = .ok ())
      (valid : p.request.validate ctx.symbol markets = .ok v)
      (asked : p.request.AskedAs v ctx.symbol (p.request.idAfter d.clientIds) order)
      (said : t.commands = .submitted ctx.slug order :: later)
      (protection : ∀ slug q, .submitted slug q ∈ later →
        slug = ctx.slug ∧ ∃ quantity, p.request.Protects quantity q)
  /-- The venue was asked for both halves, one after the other. -/
  | pair {profit stop : ValidatedOrder} {first second : Submission} (pair : p.isPair = true)
      (valid : (Desk.profitRequest p.request).validate ctx.symbol markets = .ok profit)
      (valid' : (Desk.stopRequest p.request).validate ctx.symbol markets = .ok stop)
      (asked : (Desk.profitRequest p.request).AskedAs profit ctx.symbol
        (p.request.idAfter d.clientIds ++ "-tp") first)
      (asked' : (Desk.untimedStop p.request).AskedAs stop ctx.symbol
        (p.request.idAfter d.clientIds ++ "-sl") second)
      (submits : Desk.SubmitsPair ctx first second t)

section

variable {d : Desk} {ctx : Context} {f : Floor} {markets : List Market}

/-- To find the context the desk only asks. -/
theorem Opens.reads {p : Placement} (h : p.Opens d ctx f) : d.floor.Reads f := by
  have asks := Floor.keeps_context d.reference p.request p.user d.floor
  rwa [show (Floor.context d.reference p.request p.user).run d.floor = _ from h.found] at asks

/-- A strategy goes on from the context that was found. -/
theorem run_byStrategy {r : OrderRequest} {user : String}
    (h : (byStrategy r user).IsCleared d ctx f markets) :
    ((byStrategy r user).run d).2 = (Desk.placeSingle ctx r false { d with floor := f }).2 := by
  have complete : r.ensureComplete = .ok () := h.opens.complete
  have found : Floor.context d.reference r user d.floor = (.ok ctx, f) := h.opens.found
  have automated : Market.refuseIf (!Desk.automatedTypes.contains r.type) (.manualOnly r.type)
      = .ok () := by
    rw [List.contains_iff_mem.mpr h.allowed]
    rfl
  show (Desk.createOrder r user d).2 = _
  unfold Desk.createOrder
  rw [automated, Desk.check_bind, complete, Desk.check_bind, Run.get_bind, Run.bind_apply,
    Desk.runFloor_apply, found]
  dsimp only
  rw [Run.map_apply]

/-- So does a placement by hand. -/
theorem run_byHand {r : OrderRequest} {user : String}
    (h : (byHand r user).IsCleared d ctx f markets) :
    ((byHand r user).run d).2
      = ((if r.type == .oco then Desk.placeOco ctx r else Desk.placeProtected ctx r)
          { d with floor := f }).2 := by
  have complete : r.ensureComplete = .ok () := h.opens.complete
  have found : Floor.context d.reference r user d.floor = (.ok ctx, f) := h.opens.found
  have supported : OrderRequest.ensureSupported r.venue r.type = .ok () := by
    unfold OrderRequest.ensureSupported
    rw [show Venue.supports r.venue r.type = true from h.allowed]
    rfl
  show (Desk.placeManualOrder r user d).2 = _
  unfold Desk.placeManualOrder
  rw [complete, Desk.check_bind, supported, Desk.check_bind, Run.get_bind, Run.bind_apply,
    Desk.runFloor_apply, found]

/-- A placement that is no pair asks for an order that is no pair, and for nothing else. -/
theorem of_single {p : Placement} (h : p.IsCleared d ctx f markets) (single : p.isPair = false) :
    p.request.type ≠ .oco ∧ p.request ∈ p.parts := by
  cases p with
  | byStrategy r user =>
    refine ⟨fun pair => ?_, List.mem_singleton.mpr rfl⟩
    have automated : r.type ∈ Desk.automatedTypes := h.allowed
    rw [show r.type = .oco from pair] at automated
    exact absurd automated (by decide)
  | byHand r user =>
    have apart : r.type ≠ .oco := beq_eq_false_iff_ne.mp single
    refine ⟨apart, ?_⟩
    show r ∈ if r.type = .oco then _ else [r]
    rw [if_neg apart]
    exact List.mem_singleton.mpr rfl

/-- **What the venue hears of a single order** that is ready. -/
theorem commands_of_single {p : Placement} (positive : p.request.IsPositive)
    (h : p.IsCleared d ctx f markets) (single : p.isPair = false) {v : ValidatedOrder}
    {fee : Option FeeEstimate} {slippage : Option Float} {g : Floor} {order : Submission}
    (prepared : Desk.prepareSingle d.reference ctx p.request f = (.ok (v, fee, slippage), g))
    (shaped : Desk.ShapedAs ctx (Desk.singleLeg p.request v (p.request.idAfter d.clientIds))
      order) :
    (Store.beginTransaction d.store).1 ≠ .ok () ∧ (p.run d).2.floor.commands = f.commands
    ∨ (Store.beginTransaction d.store).1 = .ok ()
      ∧ ∃ later, (p.run d).2.floor.commands = f.commands ++ .submitted ctx.slug order :: later
        ∧ ∀ slug q, .submitted slug q ∈ later →
          slug = ctx.slug ∧ ∃ quantity, p.request.Protects quantity q := by
  have placed := Desk.commands_placeSingle (d := { d with floor := f }) prepared shaped p.isManual
  cases p with
  | byStrategy r user =>
    rw [run_byStrategy h]
    rcases placed with ⟨stuck, e, d', ended, silent⟩ | ⟨begins, said⟩
    · refine .inl ⟨stuck, ?_⟩
      rw [← silent]
      exact congrArg (·.2.floor.commands) ended
    · exact .inr ⟨begins, [], said, fun _ _ none => nomatch none⟩
  | byHand r user =>
    change r.IsPositive at positive
    rw [run_byHand h, if_neg (by rw [show (r.type == .oco) = false from single]; decide)]
    rcases placed with ⟨stuck, e, d', ended, silent⟩ | ⟨begins, said⟩
    · refine .inl ⟨stuck, ?_⟩
      unfold Desk.placeProtected
      rw [Run.bind_apply, show Desk.placeSingle ctx r true _ = _ from ended]
      exact silent
    · obtain ⟨later, after, protective⟩ :=
        Desk.submitsOnly_after_placeSingle positive ctx { d with floor := f }
      refine .inr ⟨begins, later, ?_, protective⟩
      rw [after, show (Desk.placeSingle ctx r true _).2.floor.commands = _ from said,
        List.append_assoc]
      rfl

/-- **A single order that is cleared** reaches the venue. -/
theorem reaches_of_single {p : Placement} {t : Trail} (positive : p.request.IsPositive)
    (h : p.IsCleared d ctx f markets) (single : p.isPair = false)
    (leaves : Leaves p.venue d (p.run d).2 t) : p.Reaches d ctx markets t := by
  obtain ⟨g, loaded⟩ := h.loaded
  obtain ⟨apart, part⟩ := of_single h single
  obtain ⟨v, valid⟩ := h.valid _ part
  obtain ⟨fee, slippage, g', prepared⟩ := Desk.prepareSingle_of_valid d.reference loaded valid
  obtain ⟨order, shaped, asked⟩ := Desk.shaped_singleLeg positive
    (OrderRequest.isComplete_of_ensureComplete h.opens.complete) d.clientIds apart valid
  have given := leaves.commands
  rcases commands_of_single positive h single prepared shaped with
    ⟨stuck, silent⟩ | ⟨begins, later, said, protection⟩
  · rw [silent, h.opens.reads.commands] at given
    exact .withheld single stuck (List.self_eq_append_right.mp given)
  · rw [said, h.opens.reads.commands] at given
    exact .single single begins valid asked (List.append_cancel_left given).symm protection

/-- **A pair that is cleared** reaches the venue. -/
theorem reaches_of_pair {r : OrderRequest} {user : String} {t : Trail} (positive : r.IsPositive)
    (h : (byHand r user).IsCleared d ctx f markets) (pair : r.type = .oco)
    (leaves : Leaves r.venue d ((byHand r user).run d).2 t) :
    (byHand r user).Reaches d ctx markets t := by
  obtain ⟨g, loaded⟩ := h.loaded
  have complete : r.IsComplete := OrderRequest.isComplete_of_ensureComplete h.opens.complete
  have parts : (byHand r user).parts = [Desk.profitRequest r, Desk.stopRequest r] := if_pos pair
  have isPair : (r.type == .oco) = true := beq_iff_eq.mpr pair
  obtain ⟨profit, valid⟩ := h.valid (Desk.profitRequest r) (by rw [parts]; simp)
  obtain ⟨stop, valid'⟩ := h.valid (Desk.stopRequest r) (by rw [parts]; simp)
  obtain ⟨fee, g', prepared⟩ := Desk.prepareOco_of_valid d.reference loaded valid valid'
  obtain ⟨first, shaped, asked⟩ := Desk.shaped_profitLeg positive complete d.clientIds pair valid
  obtain ⟨second, shaped', asked'⟩ :=
    Desk.shaped_stopLeg positive complete d.clientIds pair valid'
  obtain ⟨u, left, submits⟩ :=
    Desk.submitsPair_placeOco (d := { d with floor := f }) prepared shaped shaped'
  have silent : Desk.Silent ctx.slug d { d with floor := f } :=
    Desk.leaves_of_floor rfl (h.opens.reads.said ctx.slug)
  have whole : Leaves ctx.slug d ((byHand r user).run d).2 u := by
    rw [run_byHand h, if_pos isPair]
    exact silent.then left
  rw [show ctx.slug = r.venue from (Floor.of_context h.opens.found).1] at whole
  obtain rfl := leaves.unique whole
  exact .pair isPair valid valid' asked asked' submits

/-- **What is asked for reaches the venue.** Once a placement is cleared, the venue is asked for
the order with everything that its type needs, or for both halves of a pair one after the
other; and what it is asked for is what was requested. -/
theorem reaches_venue (p : Placement) (d : Desk) (positive : p.request.IsPositive)
    (h : p.IsCleared d ctx f markets) :
    ∃ t, Leaves p.venue d (p.run d).2 t ∧ p.Reaches d ctx markets t := by
  obtain ⟨t, leaves, -⟩ := p.leaves_run d
  refine ⟨t, leaves, ?_⟩
  cases p with
  | byStrategy r user => exact reaches_of_single positive h rfl leaves
  | byHand r user =>
    by_cases pair : r.type = .oco
    · exact reaches_of_pair positive h pair leaves
    · exact reaches_of_single positive h (beq_eq_false_iff_ne.mpr pair) leaves

end

/-- What is left to be found out of a placement that is complete and of an allowed type, as a
check that can be run. -/
def clears (p : Placement) (d : Desk) : Bool :=
  match Floor.context d.reference p.request p.user d.floor with
  | (.error _, _) => false
  | (.ok ctx, f) =>
    match Floor.speak ctx Line.fetchMarkets f with
    | (.error _, _) => false
    | (.ok markets, _) => p.parts.all fun r => (r.validate ctx.symbol markets).isOk

theorem cleared_of_clears {p : Placement} {d : Desk} (allowed : p.IsAllowed)
    (complete : p.request.ensureComplete = .ok ()) (h : p.clears d = true) :
    ∃ ctx f markets, p.IsCleared d ctx f markets := by
  unfold clears at h
  rcases found : Floor.context d.reference p.request p.user d.floor with ⟨_ | ctx, f⟩ <;>
    rw [found] at h
  · cases h
  dsimp only at h
  rcases loaded : Floor.speak ctx Line.fetchMarkets f with ⟨_ | markets, g⟩ <;> rw [loaded] at h
  · cases h
  refine ⟨ctx, f, markets, allowed, ⟨complete, found⟩, ⟨g, loaded⟩, fun r part => ?_⟩
  have passes : (r.validate ctx.symbol markets).isOk = true := List.all_eq_true.mp h r part
  cases valid : r.validate ctx.symbol markets with
  | ok v => exact ⟨v, rfl⟩
  | error e =>
    rw [valid] at passes
    cases passes

/-- Both halves of a pair on a desk where nothing fails reach the venue. -/
theorem reaches_venue_onePair :
    ∃ ctx f markets, (byHand Desk.onePair "u1").request.IsPositive
      ∧ (byHand Desk.onePair "u1").IsCleared (Desk.small [] {}) ctx f markets
      ∧ ((byHand Desk.onePair "u1").run (Desk.small [] {})).2.floor.commands.length = 2
      ∧ ∃ t, Leaves "binance" (Desk.small [] {})
            ((byHand Desk.onePair "u1").run (Desk.small [] {})).2 t
          ∧ (byHand Desk.onePair "u1").Reaches (Desk.small [] {}) ctx markets t := by
  have positive : Desk.onePair.IsPositive :=
    ⟨by decide +kernel, by decide +kernel, by decide +kernel, by decide +kernel,
      by decide +kernel⟩
  have allowed : (byHand Desk.onePair "u1").IsAllowed :=
    show Venue.supports "binance" .oco = true by decide
  obtain ⟨ctx, f, markets, cleared⟩ :=
    cleared_of_clears (d := Desk.small [] {}) allowed rfl (by decide +kernel)
  exact ⟨ctx, f, markets, positive, cleared, by decide +kernel,
    reaches_venue (byHand Desk.onePair "u1") (Desk.small [] {}) positive cleared⟩

end Placement

end OrderDesk

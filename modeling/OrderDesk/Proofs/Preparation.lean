import OrderDesk.Desk.Protection
import OrderDesk.Proofs.Conversation

/-!
# Before an order is submitted

Whatever is placed, the desk first finds out what the request is about, measures it against
the market and estimates it. All of that only asks. And all of it can fail, but never as
the submission of an order fails: a failure of the venue to do something, or of the store
to record it, says that an order was on its way. What fails before is a failure of the
desk's *own*.

So the kind of a failure tells how far an order got, which is what this module is for. It
also states what the steps before the submission establish: which venue and which coins
the context names, and which terms a validated order has.
-/

namespace OrderDesk

namespace Failure

/-- The failure is the desk's own: it says nothing about an order at a venue. -/
def isOwn : Failure → Bool
  | venue .. | unreconciled .. => false
  | _ => true

end Failure

/-- A check fails for a reason of the desk's own. -/
def Own {α : Type} (x : Except Failure α) : Prop := ∀ e, x = .error e → e.isOwn = true

namespace Own

variable {α β : Type}

theorem ok (a : α) : Own (.ok a) := by
  intro e h
  cases h

theorem refused (why : Refusal) : Own (.error (.refused why) : Except Failure α) := by
  intro e h
  cases h
  rfl

theorem missing (what : String) : Own (.error (.missing what) : Except Failure α) := by
  intro e h
  cases h
  rfl

/-- A fault is of the desk's own. -/
theorem fault (x : Except Fault α) : Own (x.mapError .fault) := by
  intro e h
  cases x with
  | ok a => cases h
  | error cause =>
    cases h
    rfl

theorem seq {x : Except Failure α} {f : α → Except Failure β} (hx : Own x)
    (hf : ∀ a, Own (f a)) : Own (x >>= f) := by
  intro e h
  cases x with
  | ok a => exact hf a e h
  | error cause =>
    cases h
    exact hx _ rfl

theorem map {x : Except Failure α} (g : α → β) (hx : Own x) : Own (g <$> x) := by
  intro e h
  cases x with
  | ok a => cases h
  | error cause =>
    cases h
    exact hx _ rfl

end Own

/-! ## What a request is about -/

namespace Reference

theorem own_coin (ref : Reference) (id : String) : Own (ref.coin id) := by
  unfold coin
  cases ref.coins.find? id with
  | some c => exact .ok c
  | none => exact .missing _

theorem own_coinsOf (ref : Reference) (r : OrderRequest) : Own (ref.coinsOf r) := by
  unfold coinsOf
  split
  · exact .seq (own_coin ref _) fun base => .seq (own_coin ref _) fun quote => .ok _
  · unfold coinsOfSymbol
    split
    · exact .refused _
    · split
      · exact .ok _
      · exact .missing _

theorem own_credential (ref : Reference) (user slug : String) :
    Own (ref.credential user slug) := by
  unfold credential
  cases ref.credentials.active? user slug with
  | some c => exact .ok c
  | none => exact .missing _

end Reference

/-! ## What a market takes -/

namespace Market

theorem own_refuseIf (condition : Bool) (why : Refusal) : Own (refuseIf condition why) := by
  unfold refuseIf
  by_cases h : condition = true
  · rw [if_pos h]
    exact .refused why
  · rw [if_neg h]
    exact .ok ()

theorem of_refuseIf {condition : Bool} {why : Refusal} (h : refuseIf condition why = .ok ()) :
    condition = false := by
  unfold refuseIf at h
  split at h
  · cases h
  · exact Bool.eq_false_iff.mpr ‹_›

theorem own_withinLimits (x : Float) (least greatest : Option Float)
    (below above : Float → Float → Refusal) :
    Own (withinLimits x least greatest below above) := by
  unfold withinLimits
  cases isBelow x least with
  | some l => exact .refused _
  | none =>
    cases isAbove x greatest with
    | some g => exact .refused _
    | none => exact .ok ()

theorem own_checkQuantity (m : Market) (quantity : Float) : Own (m.checkQuantity quantity) :=
  .seq (.fault _) fun _ => .seq (own_refuseIf _ _) fun _ =>
    .seq (own_withinLimits _ _ _ _ _) fun _ => .ok _

theorem own_checkPrice (m : Market) (price : Float) : Own (m.checkPrice price) :=
  .seq (.fault _) fun _ => .seq (own_refuseIf _ _) fun _ =>
    .seq (own_withinLimits _ _ _ _ _) fun _ => .ok _

theorem own_checkValue (m : Market) (quantity price : Float) :
    Own (m.checkValue quantity price) := by
  unfold checkValue
  cases isBelow (quantity * price) m.minCost with
  | some l => exact .refused _
  | none => exact .ok ()

theorem own_find (markets : List Market) (symbol : String) : Own (find markets symbol) := by
  unfold find
  cases markets.find? fun m => m.symbol.isText symbol with
  | some m => exact .ok m
  | none => exact .refused _

end Market

namespace OrderRequest

theorem own_checkedPrice (r : OrderRequest) (m : Market) : Own (r.checkedPrice m) := by
  unfold checkedPrice
  cases r.price with
  | some p => exact .map some (m.own_checkPrice p)
  | none => exact .ok none

theorem own_checkReference (r : OrderRequest) (m : Market) (quantity : Float)
    (limit : Option Float) : Own (r.checkReference m quantity limit) := by
  unfold checkReference
  cases r.reference limit with
  | none => exact .ok ()
  | some p =>
    cases limit with
    | some _ => exact m.own_checkValue quantity p
    | none => exact .seq (m.own_checkPrice p) fun _ => m.own_checkValue quantity p

/-- An order that a market does not take is refused. -/
theorem own_validate (r : OrderRequest) (symbol : String) (markets : List Market) :
    Own (r.validate symbol markets) :=
  .seq (Market.own_find markets symbol) fun m => .seq (Market.own_refuseIf _ _) fun _ =>
    .seq (m.own_checkQuantity _) fun _ => .seq (r.own_checkedPrice m) fun _ =>
      .seq (r.own_checkReference m _ _) fun _ => .ok _

theorem own_ensureSupported (slug : String) (type : OrderType) :
    Own (ensureSupported slug type) :=
  Market.own_refuseIf _ _

theorem own_ensureComplete (r : OrderRequest) : Own r.ensureComplete :=
  .seq (Market.own_refuseIf _ _) fun _ => .seq (Market.own_refuseIf _ _) fun _ =>
    .seq (Market.own_refuseIf _ _) fun _ => .seq (Market.own_refuseIf _ _) fun _ =>
      Market.own_refuseIf _ _

/-- **What a request of each type states.** -/
structure IsComplete (r : OrderRequest) : Prop where
  price : r.type = .limit ∨ r.type = .stopLimit → r.price.isSome = true
  stop : r.type = .stopLoss ∨ r.type = .stopLimit → r.stopPrice.isSome = true
  trailing : r.type = .trailingStop →
    r.trailingAmount.isSome = true ∧ r.trailingType.isSome = true
  target : r.type = .takeProfit → r.takeProfitPrice.isSome = true
  targets : r.type = .oco → r.takeProfitPrice.isSome = true ∧ r.stopLossPrice.isSome = true

/-- **A request that is let pass is complete.** -/
theorem isComplete_of_ensureComplete {r : OrderRequest} (h : r.ensureComplete = .ok ()) :
    r.IsComplete := by
  obtain ⟨_, price, h⟩ := Run.ok_of_bind h
  obtain ⟨_, stop, h⟩ := Run.ok_of_bind h
  obtain ⟨_, trailing, h⟩ := Run.ok_of_bind h
  obtain ⟨_, target, targets⟩ := Run.ok_of_bind h
  replace price := Market.of_refuseIf price
  replace stop := Market.of_refuseIf stop
  replace trailing := Market.of_refuseIf trailing
  replace target := Market.of_refuseIf target
  replace targets := Market.of_refuseIf targets
  refine ⟨fun is => ?_, fun is => ?_, fun is => ?_, fun is => ?_, fun is => ?_⟩
  · rcases is with is | is <;> simpa [is] using price
  · rcases is with is | is <;> simpa [is] using stop
  · simpa [is] using trailing
  · simpa [is] using target
  · simpa [is] using targets

/-- The price that the value of a validated order is reckoned at. -/
theorem referencePrice_of_validate {r : OrderRequest} {symbol : String}
    {markets : List Market} {v : ValidatedOrder} (h : r.validate symbol markets = .ok v) :
    v.referencePrice = r.reference v.price := by
  obtain ⟨m, -, h⟩ := Run.ok_of_bind h
  obtain ⟨_, -, h⟩ := Run.ok_of_bind h
  obtain ⟨quantity, -, h⟩ := Run.ok_of_bind h
  obtain ⟨limit, -, h⟩ := Run.ok_of_bind h
  obtain ⟨_, -, h⟩ := Run.ok_of_bind h
  cases h
  rfl

end OrderRequest

/-! ## On the floor -/

namespace Floor

/-- Every failure of an operation is of the desk's own. -/
abbrev FailsOwn {α : Type} (x : FloorM α) : Prop := FailsWith (·.isOwn = true) x

theorem failsOwn_check {α : Type} {x : Except Failure α} (h : Own x) : FailsOwn (check x) := by
  intro f e g failed
  exact h e (congrArg Prod.fst failed)

/-- An exchange whose fault is the failure of the operation. -/
theorem failsOwn_runLine {α : Type} (slug user : String) (x : Line α) :
    FailsOwn (runLine slug user x) := by
  refine .seq (.lift _) fun r => ?_
  cases r with
  | ok a => exact .answer a
  | error e => exact .fail rfl

theorem failsOwn_resolve (slug user : String) (credential : Option Credential) :
    FailsOwn (resolve slug user credential) := by
  intro f e g h
  have ends := resolves slug user credential f
  rw [h] at ends
  cases ends <;> rfl

/-- **Finding out what a request is about** fails for reasons of the desk's own. -/
theorem failsOwn_context (ref : Reference) (r : OrderRequest) (user : String) :
    FailsOwn (context ref r user) :=
  .seq (failsOwn_check (ref.own_coinsOf r)) fun _ =>
    .seq (.seq (failsOwn_check (ref.own_credential user r.venue)) fun _ =>
      failsOwn_resolve r.venue user _) fun _ =>
    .seq (failsOwn_check (.fault _)) fun _ => .answer _

/-- The connection of a user to a venue is one to that venue. -/
theorem slug_of_resolve {slug user : String} {credential : Option Credential} {f g : Floor}
    {c : Connection} (h : resolve slug user credential f = (.ok c, g)) : c.slug = slug := by
  have ends := resolves slug user credential f
  rw [h] at ends
  exact ends.isFor.1

/-- **The context of a request** names its venue and its user. -/
theorem of_context {ref : Reference} {r : OrderRequest} {user : String} {f g : Floor}
    {ctx : Context} (h : context ref r user f = (.ok ctx, g)) :
    ctx.slug = r.venue ∧ ctx.user = user := by
  obtain ⟨coins, f₁, -, h⟩ := Run.of_bind_ok h
  obtain ⟨connection, f₂, connected, h⟩ := Run.of_bind_ok h
  obtain ⟨symbol, f₃, -, h⟩ := Run.of_bind_ok h
  obtain ⟨credential, f₄, -, resolved⟩ := Run.of_bind_ok connected
  cases h
  exact ⟨slug_of_resolve resolved, rfl⟩

end Floor

namespace Desk

open Floor (FailsOwn Reads)

/-! ## What precedes the submission of a single order -/

theorem keeps_prepareSingle (ref : Reference) (ctx : Context) (r : OrderRequest) :
    Keeps Reads (prepareSingle ref ctx r).run :=
  .seq (Floor.keeps_speak ctx Line.keeps_fetchMarkets) fun _ =>
    .seq (Floor.keeps_check _) fun _ =>
      .seq (.lift (Floor.keeps_estimate ref ctx r.type r.side _)) fun _ => .answer _

theorem failsOwn_prepareSingle (ref : Reference) (ctx : Context) (r : OrderRequest) :
    FailsOwn (prepareSingle ref ctx r) :=
  .seq (Floor.failsOwn_runLine _ _ _) fun _ =>
    .seq (Floor.failsOwn_check (r.own_validate _ _)) fun _ =>
      .seq (.lift _) fun _ => .answer _

/-! ## What precedes the submission of a pair -/

theorem keeps_prepareOco (ref : Reference) (ctx : Context) (r : OrderRequest) :
    Keeps Reads (prepareOco ref ctx r).run :=
  .seq (Floor.keeps_speak ctx Line.keeps_fetchMarkets) fun _ =>
    .seq (Floor.keeps_check _) fun _ => .seq (Floor.keeps_check _) fun _ =>
      .seq (.lift (Floor.keeps_estimate ref ctx .limit r.side _)) fun _ => .answer _

theorem failsOwn_prepareOco (ref : Reference) (ctx : Context) (r : OrderRequest) :
    FailsOwn (prepareOco ref ctx r) :=
  .seq (Floor.failsOwn_runLine _ _ _) fun _ =>
    .seq (Floor.failsOwn_check (OrderRequest.own_validate _ _ _)) fun _ =>
      .seq (Floor.failsOwn_check (OrderRequest.own_validate _ _ _)) fun _ =>
        .seq (.lift _) fun _ => .answer _

/-- The stop-loss half of a complete pair has a price at which it becomes active. -/
theorem isSome_stop_of_prepareOco {ref : Reference} {ctx : Context} {r : OrderRequest}
    {f g : Floor} {profit stop : ValidatedOrder} {fee : Option FeeEstimate}
    (target : r.takeProfitPrice.isSome)
    (h : prepareOco ref ctx r f = (.ok (profit, stop, fee), g)) :
    stop.referencePrice.isSome := by
  obtain ⟨markets, f₁, -, h⟩ := Run.of_bind_ok h
  obtain ⟨profit', f₂, -, h⟩ := Run.of_bind_ok h
  obtain ⟨stop', f₃, checked, h⟩ := Run.of_bind_ok h
  obtain ⟨estimated, f₄, -, h⟩ := Run.of_bind_ok h
  cases h
  have valid : (stopRequest r).validate ctx.symbol markets = .ok stop :=
    congrArg Prod.fst checked
  rw [OrderRequest.referencePrice_of_validate valid]
  unfold OrderRequest.reference
  -- the take-profit price of the request is the last resort for the stop-loss half as well
  obtain ⟨p, stated⟩ := Option.isSome_iff_exists.mp target
  show ((_ <|> _ <|> r.takeProfitPrice) : Option Float).isSome
  rw [stated]
  cases OrderRequest.stated stop.price with
  | some _ => rfl
  | none => cases OrderRequest.stated (stopRequest r).stopPrice <;> rfl

end Desk

end OrderDesk

import OrderDesk.Proofs.Aging
import OrderDesk.Proofs.Alike
import OrderDesk.Proofs.Following

/-!
# Users do not see each other

Whatever a user asks for, the rows of everybody else stay as they are; that much can be read
off the steps that an operation is made of. That these rows do not matter for the answer
either is about two runs, at two desks that the user cannot tell apart: every operation
answers the same at both, says the same to the venues, and leaves desks that cannot be told
apart again.

Placing an order looks at no row at all, and all its parts respect the likeness as they
stand. A cancel is different. It looks its order up, sets a status by identifier alone, and
goes on with whatever its row is linked to, so that the two runs are compared at the two
desks where they are: an order that is found belongs to the user, at both desks, and a link
to anything else ends the walk at both.
-/

namespace OrderDesk

/-- **A step of a user** leaves the rows of others as they are. -/
theorem Ledger.Step.others {user : String} {l l' : Ledger} (h : l.Step user l') :
    l'.others user = l.others user := by
  cases h with
  | written after owned => exact others_of_rows after owned
  | closed has time => exact others_update (fun _ => rfl) has.owned

/-- What can be canceled is decided by own rows. -/
theorem Ledger.cancelable_congr {l l' : Ledger} {user : String} (same : l.own user = l'.own user)
    (id : String) : l.cancelable user id = l'.cancelable user id := by
  unfold cancelable
  rw [findOwned?_congr same]

/-- The record of a leg has no identifier yet. -/
theorem Leg.id_of_recordNow {ctx : Context} {leg : Leg} {ack : Ack} {marks : Leg.Marks}
    {s : Store} {t : Ticket} (h : (recordNow ctx leg ack marks s).1 = .ok t) : t.id = none := by
  rcases ran : recordNow ctx leg ack marks s with ⟨r, u⟩
  rw [ran] at h
  cases h
  obtain ⟨ticket, s₁, recorded, rest⟩ := Run.of_bind_ok ran
  obtain ⟨status, -, made⟩ := Run.ok_of_bind (congrArg Prod.fst recorded)
  cases made
  obtain ⟨time, s₂, -, ended⟩ := Run.of_bind_ok rest
  cases ended
  rfl

namespace Desk

/-- **Two desks are alike for a user**, when `k` identifiers had been given out at some time
before: nothing is different but rows of others, and incidents, which no user asks for. -/
structure Alike (user : String) (k : Nat) (d e : Desk) : Prop where
  reference : d.reference = e.reference
  /-- The venues, and everything that was said to them. -/
  floor : d.floor = e.floor
  clientIds : d.clientIds = e.clientIds
  store : d.store.Alike user k e.store

variable {user : String} {k : Nat} {d e : Desk}

/-! ## Parts of an operation -/

/-- **What happens on the floor** is the same. -/
theorem respects_onFloor {α : Type} (x : StateM Floor α) : Respects (Alike user k) (onFloor x) :=
  fun _ _ h => ⟨congrArg (fun f => (x f).1) h.floor,
    ⟨h.reference, congrArg (fun f => (x f).2) h.floor, h.clientIds, h.store⟩⟩

theorem respects_runFloor {α : Type} (x : FloorM α) : Respects (Alike user k) (runFloor x).run :=
  respects_onFloor x.run

theorem respects_notify (n : Notice) : Respects (Alike user k) (notify n) := respects_onFloor _

/-- **What happens in the store** is the same when it is the same for alike stores. -/
theorem respects_tryStore {α : Type} {x : StoreM α} (hx : Respects (Store.Alike user k) x.run) :
    Respects (Alike user k) (tryStore x) :=
  fun _ _ h => ⟨(hx _ _ h.store).1, ⟨h.reference, h.floor, h.clientIds, (hx _ _ h.store).2⟩⟩

theorem respects_runStore {α : Type} {x : StoreM α} (hx : Respects (Store.Alike user k) x.run) :
    Respects (Alike user k) (runStore x).run :=
  .seqM (respects_tryStore hx) fun _ => .answerM _

/-- What succeeds for the desk succeeded in the store. -/
theorem ok_of_runStore {α : Type} {x : StoreM α} {a : α} (h : (runStore x d).1 = .ok a) :
    (x d.store).1 = .ok a := by
  obtain ⟨r, ran, same, -⟩ := of_runStore (Prod.ext h rfl)
  cases r with
  | error e => cases same
  | ok b =>
    cases same
    exact congrArg Prod.fst ran

theorem respects_check {α : Type} (x : Except Failure α) :
    Respects (Alike user k) (check x).run := .answerM x

theorem respects_attempt {α : Type} {x : DeskM α} (hx : Respects (Alike user k) x.run) :
    Respects (Alike user k) (attempt x).run := .lift hx

theorem respects_newClientId : Respects (Alike user k) newClientId :=
  fun _ _ h => ⟨congrArg (fun n => "cid-" ++ Number.digitsText (n + 1)) h.clientIds,
    ⟨h.reference, h.floor, congrArg (· + 1) h.clientIds, h.store⟩⟩

theorem respects_clientIdOr (given : Option String) :
    Respects (Alike user k) (clientIdOr given) := by
  unfold clientIdOr
  split
  · exact .answerM _
  · exact respects_newClientId

theorem respects_escalate (dv : Divergence) : Respects (Alike user k) (escalate dv) := by
  refine .seqM (respects_notify _) fun _ =>
    .seqM (respects_tryStore (Store.respects_createIncident _)) fun r => ?_
  cases r with
  | ok _ => exact .answerM ()
  | error _ => exact respects_notify _

theorem respects_escalateAndFail {α : Type} (dv : Divergence) (operation : String) :
    Respects (Alike user k) (escalateAndFail dv operation : DeskM α).run :=
  .seq (.lift (respects_escalate dv)) fun _ => .fail _

/-- **What is written after a venue accepted**, and what is done when that fails. -/
theorem respects_settle {α β : Type} {x : StoreM α} {f : Except Fault α → DeskM β}
    (hx : Respects (Store.Alike user k) x.run)
    (written : ∀ a, Respects (Alike user k) (f (.ok a)).run)
    (lost : ∀ e, Respects (Alike user k) (f (.error e)).run) :
    Respects (Alike user k) (liftM (tryStore x) >>= f).run :=
  .seq (.lift (respects_tryStore hx)) fun
    | .ok a => written a
    | .error e => lost e

/-! ## Placing orders -/

section

variable {ctx : Context} {r : OrderRequest}

theorem respects_recordNow (leg : Leg) (ack : Ack) (marks : Leg.Marks) :
    Respects (Store.Alike user k) (Leg.recordNow ctx leg ack marks).run :=
  .seq (Store.respects_ofExcept _) fun _ => .seq (Store.respects_timeOr _) fun _ => .answer _

theorem respects_writeSingle (leg : Leg) (ack : Ack) (marks : Leg.Marks) :
    Respects (Store.Alike user k) (writeSingle ctx r leg ack marks).run := by
  refine .seqOf (respects_recordNow leg ack marks) fun ticket _ _ _ recorded => ?_
  have unnamed : ticket.id = none := Leg.id_of_recordNow recorded
  exact Store.respects_addOrder unnamed

theorem respects_executeSingle (leg : Leg) (marks : Leg.Marks) :
    Respects (Alike user k) (executeSingle ctx r leg marks).run :=
  .seq (respects_runFloor _) fun ack =>
    respects_settle (Store.respects_atomically (respects_writeSingle leg ack marks))
      (fun filed => .answer filed) fun _ => respects_escalateAndFail _ _

theorem respects_placeSingle (isManual : Bool) :
    Respects (Alike user k) (placeSingle ctx r isManual).run :=
  .look (fun _ _ h => by simp only [h.reference]) fun d =>
    .seq (respects_runFloor _) fun prepared => .seq (.lift (respects_clientIdOr _)) fun clientId =>
    .seq (respects_runStore Store.respects_beginTransaction) fun _ => respects_executeSingle _ _

theorem respects_writeOco (profit stop : Leg) (acks : Ack × Ack) (fee : Option FeeEstimate) :
    Respects (Store.Alike user k) (writeOco ctx profit stop acks fee).run := by
  refine .seqOf (respects_recordNow profit _ _) fun first _ _ _ recorded => ?_
  have unnamed : first.id = none := Leg.id_of_recordNow recorded
  refine .seq (Store.respects_addOrder unnamed) fun filed =>
    .seqOf (respects_recordNow stop _ _) fun second _ _ _ recorded => ?_
  have unnamed : second.id = none := Leg.id_of_recordNow recorded
  exact .seq (Store.respects_addOrder unnamed) fun _ => .seq (Store.respects_linkTo _ _)
    fun _ => .answer _

theorem respects_executeOco (profit stop : Leg) (fee : Option FeeEstimate) :
    Respects (Alike user k) (executeOco ctx r profit stop fee).run :=
  .seq (respects_runFloor _) fun acks =>
    respects_settle (Store.respects_transaction (respects_writeOco profit stop acks fee))
      (fun ticket => .answer ticket) fun _ => respects_escalateAndFail _ _

theorem respects_placeOco : Respects (Alike user k) (placeOco ctx r).run :=
  .look (fun _ _ h => by simp only [h.reference]) fun d =>
    .seq (respects_runFloor _) fun prepared => .seq (.lift (respects_clientIdOr _)) fun baseId =>
    respects_executeOco _ _ _

theorem respects_placeProtection (leg : Leg) :
    Respects (Alike user k) (placeProtection ctx leg).run := by
  refine .seq (respects_runFloor _) fun ack =>
    .seqOf (respects_runStore (respects_recordNow leg ack _)) fun ticket d _ _ recorded => ?_
  have unnamed : ticket.id = none := Leg.id_of_recordNow (ok_of_runStore recorded)
  exact respects_settle (Store.respects_transaction (Store.respects_addOrder unnamed))
    (fun filed => .answer filed) fun _ => respects_escalateAndFail _ _

/-- Protective legs, one after the other. -/
theorem respects_placeEach (entryId : String) (legs : List Leg) :
    Respects (Alike user k) (placeEach ctx entryId legs).run := by
  induction legs with
  | nil => exact .answer []
  | cons leg rest ih =>
    refine .seq (respects_attempt (respects_placeProtection leg)) fun placed => ?_
    cases placed with
    | ok filed => exact .seq ih fun _ => .answer _
    | error e =>
      dsimp only
      split
      · exact .seq (.lift (respects_notify _)) fun _ => ih
      · exact .fail e

theorem respects_linkProtection (entryId : String) (placed : List Filed) :
    Respects (Alike user k) (linkProtection entryId placed) := by
  unfold linkProtection
  split
  · refine .seqM (respects_tryStore (Store.respects_transaction ?_)) fun r => ?_
    · exact .seq (Store.respects_linkTo _ _) fun _ => .seq (Store.respects_linkTo _ _) fun _ =>
        .answer ()
    · cases r with
      | ok _ => exact .answerM ()
      | error _ => exact respects_notify _
  · exact .answerM ()

theorem respects_protectionAt (price : Option Float) (leg : Float → String → Leg) :
    Respects (Alike user k) (protectionAt price leg) := by
  unfold protectionAt
  split
  · exact .seqM respects_newClientId fun _ => .answerM _
  · exact .answerM []

theorem respects_protect (entry : Order) : Respects (Alike user k) (protect ctx r entry).run :=
  .seq (.lift (.seqM (respects_protectionAt _ _) fun _ =>
      .seqM (respects_protectionAt _ _) fun _ => .answerM _)) fun _ =>
    .seq (respects_placeEach _ _) fun _ => .lift (respects_linkProtection _ _)

theorem respects_placeProtected : Respects (Alike user k) (placeProtected ctx r).run := by
  refine .seq (respects_placeSingle true) fun entry => ?_
  dsimp only
  split
  · exact .seq (respects_protect _) fun _ => .answer _
  · exact .answer _

end

/-- **Placements look at no row.** -/
theorem respects_createOrder (r : OrderRequest) (asker : String) :
    Respects (Alike user k) (createOrder r asker).run :=
  .seq (respects_check _) fun _ => .seq (respects_check _) fun _ =>
    .look (fun _ _ h => by simp only [h.reference]) fun _ => .seq (respects_runFloor _) fun _ =>
    .seq (respects_placeSingle false) fun _ => .answer _

theorem respects_placeManualOrder (r : OrderRequest) (asker : String) :
    Respects (Alike user k) (placeManualOrder r asker).run := by
  refine .seq (respects_check _) fun _ => .seq (respects_check _) fun _ =>
    .look (fun _ _ h => by simp only [h.reference]) fun _ =>
    .seq (respects_runFloor _) fun ctx => ?_
  split
  · exact respects_placeOco
  · exact respects_placeProtected

/-! ## Canceling orders -/

/-- **One cancel.** What is found under the identifier is found by both runs, and the status
is set at both desks. -/
theorem respects_cancelOne (id : String) :
    Respects (Alike user k) (cancelOne user id : StateM Desk (Except Failure Retired)) := by
  intro d e h
  show (cancelOne user id d).1 = (cancelOne user id e).1
    ∧ Alike user k (cancelOne user id d).2 (cancelOne user id e).2
  unfold cancelOne
  rw [← Ledger.cancelable_congr h.store.own]
  cases can : d.store.ledger.cancelable user id with
  | error failure => exact ⟨rfl, h⟩
  | ok o =>
    dsimp only
    rw [← h.reference, ← h.floor]
    rcases (Floor.cancelAtVenue d.reference user o).run d.floor with ⟨failure | _, f⟩
    · exact ⟨rfl, ⟨rfl, rfl, h.clientIds, h.store⟩⟩
    obtain ⟨r, s, t, (first : Store.updateRow o _ _ d.store = _),
        (second : Store.updateRow o _ _ e.store = _), alike⟩ :=
      (Store.respects_updateRow o OrderStatus.canceled.name none d.store e.store h.store).ran
    dsimp only
    rw [first, second]
    rcases r with failure | ticket <;> exact ⟨rfl, ⟨rfl, rfl, h.clientIds, alike⟩⟩

/-- **Links are followed** in the same way at both desks. -/
theorem cancelsAlike : CancelsAlike (Alike user k) user :=
  ⟨fun _ _ h _ => Ledger.findOwned?_congr h.store.own, respects_notify, respects_cancelOne⟩

/-! ## All operations -/

theorem respects_askStore {x : Store → Except Failure Answer}
    (same : ∀ s t, s.Alike user k t → x s = x t) :
    Respects (Alike user k) (Operation.askStore x).run :=
  fun _ _ h => ⟨same _ _ h.store, h⟩

/-- **Every operation of a user** does the same at desks that are alike for the user. -/
theorem respects_run (op : Operation) : Respects (Alike user k) (op.run user).run := by
  cases op with
  | place r => exact .seq (respects_createOrder r user) fun _ => .answer _
  | placeByHand r => exact .seq (respects_placeManualOrder r user) fun _ => .answer _
  | cancel id => exact .seq (cancelsAlike.respects_cancelOrder id) fun _ => .answer _
  | fill id => exact .seq (cancelsAlike.respects_handleFill id) fun _ => .answer _
  | preview r =>
    exact .look (fun _ _ h => by simp only [h.reference]) fun _ =>
      .seq (respects_runFloor _) fun _ => .answer _
  | previewByHand r =>
    exact .look (fun _ _ h => by simp only [h.reference]) fun _ =>
      .seq (respects_runFloor _) fun _ => .answer _
  | order id => exact respects_askStore fun _ _ h => congrArg _ (h.orderOf_congr id)
  | orders f => exact respects_askStore fun _ _ h => congrArg _ (h.ordersOf_congr f)
  | openOrders =>
    exact respects_askStore fun _ _ h => congrArg (Except.ok ∘ Answer.orders) h.openOrdersOf_congr
  | holdings coin =>
    exact respects_askStore fun _ _ h =>
      congrArg (Except.ok ∘ Answer.holdings) (h.holdingsOf_congr coin)

end Desk

/-! ## Orders that a user does not have -/

/-- The order that an operation names. -/
def Operation.names? : Operation → Option String
  | .order id | .cancel id | .fill id => some id
  | _ => none

namespace Desk

variable {user id : String} {d : Desk}

/-- **What belongs to somebody else is missing**, just as what is not there: an operation
that names it fails and does nothing. -/
theorem run_of_hidden (hidden : ∀ o ∈ d.store.ledger.own user, o.id ≠ id) {op : Operation}
    (names : op.names? = some id) :
    op.run user d = (.error (.missing s!"Order {id} not found"), d) := by
  have unowned := Ledger.findOwned?_eq_none hidden
  cases op with
  | order other =>
    cases names
    show ((d.store.orderOf user id).map _, d) = _
    unfold Store.orderOf
    rw [unowned]
    rfl
  | cancel other =>
    cases names
    have one : cancelOrder user id d = (.error (.missing s!"Order {id} not found"), d) := by
      unfold cancelOrder cancelOne Ledger.cancelable
      rw [unowned]
    show (cancelOrder user id >>= _) d = _
    rw [Run.bind_apply, one]
  | fill other =>
    cases names
    have one : handleFill user id d = (.error (.missing s!"Order {id} not found"), d) := by
      unfold handleFill
      rw [unowned]
    show (handleFill user id >>= _) d = _
    rw [Run.bind_apply, one]
  | _ => cases names

/-- A link to it is not followed. -/
theorem cascade_of_hidden (hidden : ∀ o ∈ d.store.ledger.own user, o.id ≠ id) :
    cascade user id d = (none, d) := by
  rw [cascade_eq, Ledger.findOwned?_eq_none hidden]

/-! ## Isolation -/

/-- **Two desks look alike to a user**: the user's rows are the same, in the same order, and
so is everything else but rows of others and incidents. Each identifier that is still to come
is taken at both or at neither, as it is when new identifiers are fresh at both. -/
def LooksAlike (user : String) (d e : Desk) : Prop := Alike user d.store.usedIds d e

/-- **Users are isolated.** Whatever a user asks for, the rows of others stay as they are.
At two desks that look alike to the user the answer is the same, and the desks look alike
again: the venues were told the same, and the same rows of the user are left. An order of
somebody else cannot be told from one that does not exist, and a link to it is not
followed. -/
theorem users_are_isolated (op : Operation) (user : String) (d : Desk) :
    (op.run user d).2.store.ledger.others user = d.store.ledger.others user
    ∧ (∀ e, LooksAlike user d e →
        (op.run user d).1 = (op.run user e).1
        ∧ LooksAlike user (op.run user d).2 (op.run user e).2)
    ∧ ∀ id, (∀ o ∈ d.store.ledger.own user, o.id ≠ id) →
        (op.names? = some id →
          op.run user d = (.error (.missing s!"Order {id} not found"), d))
        ∧ cascade user id d = (none, d) := by
  refine ⟨?_, fun e looks => ?_, fun id hidden => ⟨run_of_hidden hidden, cascade_of_hidden hidden⟩⟩
  · have same : IsPreorder Ledger fun l l' => l'.others user = l.others user :=
      { refl := fun _ => rfl, trans := fun _ _ _ h k => k.trans h }
    exact (moves_run op user d).keeps fun step => step.others
  · obtain ⟨answer, alike⟩ := respects_run op d e looks
    refine ⟨answer, ⟨alike.reference, alike.floor, alike.clientIds, ?_⟩⟩
    exact alike.store.mono alike.store.issued le_rfl

end Desk

/-- The orders of the first of two users, of which one is linked to an order that is not
there. -/
def Ledger.ofFirst : Ledger where
  rows := [.small "o1" "u1" "FILLED" none, .small "o2" "u1" "NEW" (some "o3")]
  distinct := by decide

/-- Rows whose identifiers begin otherwise do not take any from the supply. -/
theorem Ledger.not_takes_idAt {l : Ledger} (apart : ∀ o ∈ l.rows, o.id.toList.head? ≠ some 'i')
    (n : Nat) : ¬ l.Takes (Store.idAt n) := by
  intro taken
  obtain ⟨o, mem, same⟩ := List.mem_map.mp taken
  refine apart o mem ?_
  rw [same, Store.idAt, String.toList_append]
  rfl

namespace Desk

theorem users_are_isolated_ofTwo :
    LooksAlike "u1" (holding .ofTwo []) (holding .ofFirst [])
    ∧ ((Operation.cancel "o2").run "u1" (holding .ofTwo [])).1
      = ((Operation.cancel "o2").run "u1" (holding .ofFirst [])).1
    ∧ (∀ o ∈ (holding .ofTwo []).store.ledger.own "u1", o.id ≠ "o3")
    ∧ (Operation.cancel "o3").names? = some "o3"
    ∧ (Operation.cancel "o3").run "u1" (holding .ofTwo [])
      = (.error (.missing "Order o3 not found"), holding .ofTwo []) := by
  have looks : LooksAlike "u1" (holding .ofTwo []) (holding .ofFirst []) := by
    refine ⟨rfl, rfl, rfl, ⟨rfl, rfl, rfl, rfl, le_rfl, fun n _ => ?_⟩⟩
    exact iff_of_false (Ledger.not_takes_idAt (by decide) n) (Ledger.not_takes_idAt (by decide) n)
  have hidden : ∀ o ∈ (holding .ofTwo []).store.ledger.own "u1", o.id ≠ "o3" := by decide
  exact ⟨looks, ((users_are_isolated (.cancel "o2") "u1" _).2.1 _ looks).1, hidden, rfl,
    ((users_are_isolated (.cancel "o3") "u1" _).2.2 "o3" hidden).1 rfl⟩

end Desk

end OrderDesk

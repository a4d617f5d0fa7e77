import OrderDesk.Proofs.Aging

/-!
# What holds of every row

A row comes into being in one way only: a venue acknowledged a leg, the record of the leg
was completed, and the store made a row of it. Afterwards a row is linked, or its status is
set, and a cancel sets it too. A property that the first gives and that the others leave
alone is therefore a property of every row, in every ledger that once was empty: whatever
users ask for and venues answer, and wherever an operation breaks off.
-/

namespace OrderDesk

/-! ## Where rows come from -/

/-- **A ticket is the record of an acknowledged leg**, completed by the prices of its
protection, by its link and by the time when the venue took it. -/
def Ticket.IsRecord (t : Ticket) : Prop :=
  ∃ ctx leg ack marks record target stop link time,
    Leg.record ctx leg ack marks = .ok record
    ∧ t = { record with
        takeProfitPrice := target, stopLossPrice := stop, link := link, transactTime := time }

namespace Ticket.IsRecord

variable {t : Ticket}

theorem withLink (h : t.IsRecord) (link : Option String) :
    ({ t with link := link } : Ticket).IsRecord := by
  obtain ⟨ctx, leg, ack, marks, record, target, stop, -, time, recorded, rfl⟩ := h
  exact ⟨ctx, leg, ack, marks, record, target, stop, link, time, recorded, rfl⟩

theorem withProtection (h : t.IsRecord) (r : OrderRequest) :
    (Desk.withProtection r t).IsRecord := by
  obtain ⟨ctx, leg, ack, marks, record, target, stop, link, time, recorded, rfl⟩ := h
  exact ⟨ctx, leg, ack, marks, record, _, _, link, time, recorded, rfl⟩

/-- What is recorded now is the record of a leg. -/
theorem of_recordNow {ctx : Context} {leg : Leg} {ack : Ack} {marks : Leg.Marks} {s u : Store}
    (h : Leg.recordNow ctx leg ack marks s = (.ok t, u)) : t.IsRecord := by
  obtain ⟨record, s₁, recorded, h⟩ := Run.of_bind_ok h
  obtain ⟨time, s₂, -, h⟩ := Run.of_bind_ok h
  cases h
  exact ⟨ctx, leg, ack, marks, record, _, _, _, _, congrArg Prod.fst recorded, rfl⟩

end Ticket.IsRecord

/-- **A property that no operation takes from a row**, and that every row has at first. -/
structure Order.IsInvariant (P : Order → Prop) : Prop where
  written : ∀ {t : Ticket} {id : String} {transactTime createdAt updatedAt : Stamp} {o : Order},
    t.IsRecord → t.toOrder id transactTime createdAt updatedAt = .ok o → P o
  linked : ∀ {o : Order} (link : String) (time : Stamp), P o → P (Store.withLink link time o)
  set : ∀ {o : Order} (status : String) (executed : Option Float) (time : Stamp), P o →
    P (Store.withStatus status executed time o)

/-- All rows that have a property keep it, and what is written has it. -/
def Store.KeepsRows (P : Order → Prop) (s t : Store) : Prop :=
  (∀ o ∈ s.ledger.rows, P o) → ∀ o ∈ t.ledger.rows, P o

instance (P : Order → Prop) : IsPreorder Store (Store.KeepsRows P) where
  refl _ h := h
  trans _ _ _ h k all := k (h all)

/-! ## The store -/

namespace Store

variable {α : Type} {P : Order → Prop}

theorem keepsRows_of_eq {s t : Store} (same : t.ledger = s.ledger) : KeepsRows P s t := by
  intro all
  rwa [same]

/-- What writes nothing keeps rows. -/
theorem keepsRows_of_idles {x : StoreM α} (h : Keeps Idles x.run) :
    Keeps (KeepsRows P) x.run :=
  fun s => keepsRows_of_eq (h s).ledger

/-- A row that is put into the ledger. -/
theorem keepsRows_insertRow (t : Ticket) {o : Order} (has : P o) :
    Keeps (KeepsRows P) (insertRow t o).run := by
  intro s
  show KeepsRows P s (insertRow t o s).2
  unfold insertRow
  cases inserted : s.ledger.insert? o with
  | none => exact refl_of (KeepsRows P) s
  | some l =>
    intro all row mem
    rcases List.mem_append.mp (Ledger.rows_of_insert? inserted ▸ mem) with old | new
    · exact all row old
    · rwa [List.mem_singleton.mp new]

/-- A row that is changed. -/
theorem keepsRows_update {s t : Store} {id : String} {change : Order → Order}
    (changes : ∀ o, P o → P { change o with id := o.id })
    (ledger : t.ledger = s.ledger.update id change) : KeepsRows P s t := by
  intro all row mem
  rw [ledger] at mem
  obtain ⟨o, old, rfl⟩ := List.mem_map.mp mem
  unfold Ledger.changed
  split
  · exact changes o (all o old)
  · exact all o old

/-- **A transaction keeps the rows that its body keeps**, also when it is taken back. -/
theorem keepsRows_atomically {body : StoreM α} (h : Keeps (KeepsRows P) body.run) :
    Keeps (KeepsRows P) (atomically body).run := by
  have whole : Keeps (KeepsRows P) (committed body).run :=
    .seq h fun a => .seq (keepsRows_of_idles keeps_meetCommit) fun _ => .answer a
  intro s
  show KeepsRows P s (atomically body s).2
  have kept : KeepsRows P s (committed body s).2 := whole s
  unfold atomically
  rcases ran : committed body s with ⟨e | a, after⟩ <;> rw [ran] at kept
  · exact keepsRows_of_eq rfl
  · exact kept

theorem keepsRows_transaction {body : StoreM α} (h : Keeps (KeepsRows P) body.run) :
    Keeps (KeepsRows P) (transaction body).run := by
  intro s
  show KeepsRows P s (transaction body s).2
  unfold transaction
  rcases started : beginTransaction s with ⟨e | _, begun⟩
  all_goals
    have same : begun.ledger = s.ledger := by
      rw [← ledger_beginTransaction s, started]
  · exact keepsRows_of_eq same
  · exact trans_of (KeepsRows P) (keepsRows_of_eq same) (keepsRows_atomically h begun)

variable (inv : Order.IsInvariant P)

include inv

/-- **The record of a leg is written** as a row that has the property. -/
theorem keepsRows_addOrder {t : Ticket} (is : t.IsRecord) :
    Keeps (KeepsRows P) (addOrder t).run :=
  .seq (keepsRows_of_idles (keeps_meetOrder _)) fun _ =>
    .seq (keepsRows_of_idles (keeps_idOr _)) fun _ =>
    .seq (keepsRows_of_idles (keeps_timeOr _)) fun _ =>
    .seq (keepsRows_of_idles (keeps_timeOr _)) fun _ =>
    .seq (keepsRows_of_idles (keeps_timeOr _)) fun _ =>
    .seqOf (keepsRows_of_idles (keeps_ofExcept _)) fun _ _ _ made =>
    keepsRows_insertRow _ (inv.written is (Ticket.toOrder_of_row (congrArg Prod.fst made)))

theorem keepsRows_linkTo (id other : String) : Keeps (KeepsRows P) (linkTo id other).run :=
  .seq (keepsRows_of_idles keeps_meetLink) fun _ =>
    .seq (keepsRows_of_idles (keeps_timeOr none)) fun time =>
    .seq (.change fun _ => keepsRows_update (fun _ => inv.linked other time) rfl) fun _ =>
    .answer _

theorem keepsRows_setRow (o : Order) (status : String) (executed : Option Float) :
    Keeps (KeepsRows P) (setRow o status executed).run :=
  fun _ => keepsRows_update (fun _ => inv.set status executed _) rfl

theorem keepsRows_updateStatus (id status : String) (executed : Option Float) :
    Keeps (KeepsRows P) (updateStatus id status executed).run := by
  refine keepsRows_transaction fun s => ?_
  show KeepsRows P s (setStatus id status executed s).2
  unfold setStatus
  cases s.ledger.find? id with
  | none => exact refl_of (KeepsRows P) s
  | some o => exact keepsRows_setRow inv o status executed s

end Store

/-! ## The desk -/

namespace Desk

/-- All rows that have a property keep it, and what is written has it. -/
def KeepsRows (P : Order → Prop) (d d' : Desk) : Prop := d.store.KeepsRows P d'.store

instance (P : Order → Prop) : IsPreorder Desk (KeepsRows P) where
  refl d := refl_of (Store.KeepsRows P) d.store
  trans _ _ _ h k := trans_of (Store.KeepsRows P) h k

variable {α : Type} {P : Order → Prop}

/-- What happens on the floor keeps rows. -/
theorem keepsRows_onFloor (x : StateM Floor α) : Keeps (KeepsRows P) (onFloor x) :=
  fun d => refl_of (Store.KeepsRows P) d.store

theorem keepsRows_runFloor (x : FloorM α) : Keeps (KeepsRows P) (runFloor x).run :=
  keepsRows_onFloor x.run

theorem keepsRows_tryStore {x : StoreM α} (h : Keeps (Store.KeepsRows P) x.run) :
    Keeps (KeepsRows P) (tryStore x) :=
  fun d => h d.store

theorem keepsRows_runStore {x : StoreM α} (h : Keeps (Store.KeepsRows P) x.run) :
    Keeps (KeepsRows P) (runStore x).run :=
  fun d => h d.store

theorem keepsRows_check (x : Except Failure α) : Keeps (KeepsRows P) (check x).run :=
  fun d => refl_of (Store.KeepsRows P) d.store

theorem keepsRows_notify (n : Notice) : Keeps (KeepsRows P) (notify n) :=
  keepsRows_onFloor _

theorem keepsRows_newClientId : Keeps (KeepsRows P) newClientId :=
  fun d => refl_of (Store.KeepsRows P) d.store

theorem keepsRows_clientIdOr (given : Option String) :
    Keeps (KeepsRows P) (clientIdOr given) := by
  unfold clientIdOr
  cases given.filter (!·.isEmpty) with
  | some id => exact .answerM id
  | none => exact keepsRows_newClientId

theorem keepsRows_protectionLegs (r : OrderRequest) (quantity : Float) :
    Keeps (KeepsRows P) (protectionLegs r quantity) := by
  have one : ∀ price leg, Keeps (KeepsRows P) (protectionAt price leg) := by
    intro price leg
    unfold protectionAt
    cases OrderRequest.stated price with
    | none => exact .answerM []
    | some p => exact .seqM keepsRows_newClientId fun id => .answerM [leg p id]
  exact .seqM (one _ _) fun _ => .seqM (one _ _) fun _ => .answerM _

/-- An escalation writes no row. -/
theorem keepsRows_escalateAndFail (dv : Divergence) (operation : String) :
    Keeps (KeepsRows P) (escalateAndFail (α := α) dv operation).run := by
  have incident : Keeps (Store.KeepsRows P) (Store.createIncident dv.report).run :=
    .seq (Store.keepsRows_of_idles Store.keeps_meetIncident) fun _ =>
      Store.keepsRows_transaction <|
        .seq (Store.keepsRows_of_idles Store.keeps_newId) fun _ =>
        .seq (Store.keepsRows_of_idles (Store.keeps_timeOr none)) fun _ =>
        .seq (.change fun _ => Store.keepsRows_of_eq rfl) fun _ => .answer _
  exact .seq (.lift (.seqM (keepsRows_notify _) fun _ => .triedM (keepsRows_tryStore incident)
    (fun _ => .answerM _) fun _ => keepsRows_notify _)) fun _ => .fail _

variable (inv : Order.IsInvariant P)

include inv

/-! ### Placements -/

theorem keepsRows_writeSingle (ctx : Context) (r : OrderRequest) (leg : Leg) (ack : Ack)
    (marks : Leg.Marks) : Keeps (Store.KeepsRows P) (writeSingle ctx r leg ack marks).run :=
  .seqOf (Store.keepsRows_of_idles Leg.keeps_recordNow) fun _ _ _ recorded =>
    Store.keepsRows_addOrder inv ((Ticket.IsRecord.of_recordNow recorded).withProtection r)

theorem keepsRows_executeSingle (ctx : Context) (r : OrderRequest) (leg : Leg)
    (marks : Leg.Marks) : Keeps (KeepsRows P) (executeSingle ctx r leg marks).run := by
  refine .seq (keepsRows_runFloor _) fun ack => .tried (keepsRows_tryStore ?_)
    (fun _ => .answer _) fun _ => keepsRows_escalateAndFail _ _
  exact Store.keepsRows_atomically (keepsRows_writeSingle inv ctx r leg ack marks)

/-- A single order. -/
theorem keepsRows_placeSingle (ctx : Context) (r : OrderRequest) (isManual : Bool) :
    Keeps (KeepsRows P) (placeSingle ctx r isManual).run :=
  .seq .look fun _ => .seq (keepsRows_runFloor _) fun _ =>
    .seq (.lift (keepsRows_clientIdOr _)) fun _ =>
    .seq (keepsRows_runStore (Store.keepsRows_of_idles Store.keeps_beginTransaction)) fun _ =>
    keepsRows_executeSingle inv ctx r _ _

theorem keepsRows_writeOco (ctx : Context) (profit stop : Leg) (acks : Ack × Ack)
    (fee : Option FeeEstimate) :
    Keeps (Store.KeepsRows P) (writeOco ctx profit stop acks fee).run :=
  .seqOf (Store.keepsRows_of_idles Leg.keeps_recordNow) fun _ _ _ first =>
    .seq (Store.keepsRows_addOrder inv (.of_recordNow first)) fun _ =>
    .seqOf (Store.keepsRows_of_idles Leg.keeps_recordNow) fun _ _ _ second =>
    .seq (Store.keepsRows_addOrder inv ((Ticket.IsRecord.of_recordNow second).withLink _))
      fun _ => .seq (Store.keepsRows_linkTo inv _ _) fun _ => .answer _

/-- A pair of orders. -/
theorem keepsRows_placeOco (ctx : Context) (r : OrderRequest) :
    Keeps (KeepsRows P) (placeOco ctx r).run := by
  refine .seq .look fun _ => .seq (keepsRows_runFloor _) fun _ =>
    .seq (.lift (keepsRows_clientIdOr _)) fun _ => .seq (keepsRows_runFloor _) fun acks =>
    .tried (keepsRows_tryStore ?_) (fun _ => .answer _) fun _ => keepsRows_escalateAndFail _ _
  exact Store.keepsRows_transaction (keepsRows_writeOco inv ctx _ _ acks _)

theorem keepsRows_placeProtection (ctx : Context) (leg : Leg) :
    Keeps (KeepsRows P) (placeProtection ctx leg).run := by
  refine .seq (keepsRows_runFloor _) fun ack => .seqOf
    (keepsRows_runStore (Store.keepsRows_of_idles Leg.keeps_recordNow)) fun _ ticket _ recorded =>
    .tried (keepsRows_tryStore (Store.keepsRows_transaction ?_)) (fun _ => .answer _)
      fun _ => keepsRows_escalateAndFail _ _
  obtain ⟨outcome, ran, isOk, -⟩ := of_runStore recorded
  cases outcome with
  | error e => cases isOk
  | ok t =>
    cases isOk
    exact Store.keepsRows_addOrder inv (.of_recordNow ran)

theorem keepsRows_placeEach (ctx : Context) (entryId : String) (legs : List Leg) :
    Keeps (KeepsRows P) (placeEach ctx entryId legs).run := by
  induction legs with
  | nil => exact .answer []
  | cons leg rest ih =>
    refine .tried (keepsRows_placeProtection inv ctx leg) (fun _ => .seq ih fun _ => .answer _)
      fun e => ?_
    dsimp only
    split
    · exact .seq (.lift (keepsRows_notify _)) fun _ => ih
    · exact .fail e

theorem keepsRows_linkProtection (entryId : String) (placed : List Filed) :
    Keeps (KeepsRows P) (linkProtection entryId placed) := by
  unfold linkProtection
  split
  · refine .triedM (keepsRows_tryStore (Store.keepsRows_transaction ?_)) (fun _ => .answerM _)
      fun _ => keepsRows_notify _
    exact .seq (Store.keepsRows_linkTo inv _ _) fun _ =>
      .seq (Store.keepsRows_linkTo inv _ _) fun _ => .answer _
  · exact .answerM _

/-- The protection of an entry. -/
theorem keepsRows_protect (ctx : Context) (r : OrderRequest) (entry : Order) :
    Keeps (KeepsRows P) (protect ctx r entry).run :=
  .seq (.lift (keepsRows_protectionLegs r entry.quantity)) fun legs =>
    .seq (keepsRows_placeEach inv ctx entry.id legs) fun placed =>
    .lift (keepsRows_linkProtection inv entry.id placed)

/-- **Every placement** keeps rows. -/
theorem keepsRows_placement (p : Placement) : Keeps (KeepsRows P) p.run.run := by
  cases p with
  | byStrategy r user =>
    exact .seq (keepsRows_check _) fun _ => .seq (keepsRows_check _) fun _ => .seq .look fun _ =>
      .seq (keepsRows_runFloor _) fun ctx => .seq (keepsRows_placeSingle inv ctx r false)
      fun _ => .answer _
  | byHand r user =>
    refine .seq (keepsRows_check _) fun _ => .seq (keepsRows_check _) fun _ => .seq .look fun _ =>
      .seq (keepsRows_runFloor _) fun ctx => ?_
    split
    · exact keepsRows_placeOco inv ctx r
    · refine .seq (keepsRows_placeSingle inv ctx r true) fun entry => ?_
      split
      · exact .seq (keepsRows_protect inv ctx r entry.order) fun _ => .answer _
      · exact .answer entry.ticket

/-! ### Cancels -/

theorem keepsRows_cancelOne (user id : String) (d : Desk) :
    KeepsRows P d (cancelOne user id d).2 := by
  unfold cancelOne
  cases d.store.ledger.cancelable user id with
  | error e => exact refl_of (KeepsRows P) d
  | ok o =>
    dsimp only
    rcases (Floor.cancelAtVenue d.reference user o).run d.floor with ⟨e | _, floor⟩
    · exact refl_of (Store.KeepsRows P) d.store
    · have kept : Store.KeepsRows P d.store
          (Store.updateRow o OrderStatus.canceled.name none d.store).2 :=
        Store.keepsRows_transaction (Store.keepsRows_setRow inv o _ none) d.store
      dsimp only
      rcases updated : Store.updateRow o OrderStatus.canceled.name none d.store with
        ⟨_ | _, store⟩ <;> rw [updated] at kept <;> exact kept

/-- **Every operation** keeps rows. -/
theorem keepsRows_run (op : Operation) (user : String) :
    Keeps (KeepsRows P) (op.run user).run := by
  have said : ∀ (n : Notice) (d : Desk), KeepsRows P d { d with floor := d.floor.notify n } :=
    fun _ d => refl_of (Store.KeepsRows P) d.store
  cases op with
  | place r => exact .seq (keepsRows_placement inv (.byStrategy r user)) fun _ => .answer _
  | placeByHand r => exact .seq (keepsRows_placement inv (.byHand r user)) fun _ => .answer _
  | cancel id =>
    exact .seq (keeps_cancelOrder (keepsRows_cancelOne inv user) said id) fun _ => .answer _
  | fill id =>
    exact .seq (keeps_handleFill (keepsRows_cancelOne inv user) said id) fun _ => .answer _
  | preview r => exact .seq .look fun _ => .seq (keepsRows_runFloor _) fun _ => .answer _
  | previewByHand r => exact .seq .look fun _ => .seq (keepsRows_runFloor _) fun _ => .answer _
  | order id => exact fun d => refl_of (KeepsRows P) d
  | orders f => exact fun d => refl_of (KeepsRows P) d
  | openOrders => exact fun d => refl_of (KeepsRows P) d
  | holdings coin => exact fun d => refl_of (KeepsRows P) d

/-- **Every act** keeps rows. -/
theorem keepsRows_apply (a : Act) (d : Desk) : KeepsRows P d (a.apply d) := by
  cases a with
  | ask user op => exact keepsRows_run inv op user d
  | setStatus id status executed =>
    exact Store.keepsRows_updateStatus inv id status executed d.store
  | change reference floor plan => exact Store.keepsRows_of_eq rfl

/-- **What is true of every row at first and is never taken from it** is true of every row
after any acts. -/
theorem keepsRows_after (acts : List Act) (d : Desk) : KeepsRows P d (d.after acts) := by
  induction acts generalizing d with
  | nil => exact refl_of (KeepsRows P) d
  | cons a rest ih => exact trans_of (KeepsRows P) (keepsRows_apply inv a d) (ih (a.apply d))

end Desk

end OrderDesk

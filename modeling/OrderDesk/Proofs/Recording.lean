import OrderDesk.Proofs.Attaching
import OrderDesk.Proofs.Submitted

/-!
# What the rows of a placement record

A row is written for a leg that was submitted and acknowledged, and everything in it comes
from the leg, from the acknowledgement, or from the estimate. Which leg that was, which
submission it was shaped to and which answer the venue gave to it are not to be seen in a
trail any more. This module brings the three together again: of every placement, it says of
each row that was written which leg it records (`Placement.Books`).

The terms that a row shows are those of its leg, as the store keeps them. They are not looked
at between the leg and the row, so it takes no look at the type of the order to say so.
-/

namespace OrderDesk

/-! ## Rows and the legs that they record -/

/-- **A row records a leg** that was submitted as an order and acknowledged by an answer. -/
structure Order.Records (row : Order) (ctx : Context) (leg : Leg) (marks : Leg.Marks)
    (x : Submission × Payload) : Prop where
  /-- The leg was submitted as the order. -/
  shaped : (leg.instruction ctx.symbol).shape ctx.slug = .ok x.1
  /-- The answer is an acknowledgement, and the row shows what it and the leg say. -/
  acknowledged : ∃ ack, x.1.readAck x.2 = .ok ack ∧ row.IsFor ctx leg ack
    ∧ row.recordedTerms = (leg.recordedTerms ack marks).kept

/-- A row that is linked to another one records the same leg. -/
theorem Order.Records.relink {row : Order} {ctx : Context} {leg : Leg} {marks : Leg.Marks}
    {x : Submission × Payload} (h : row.Records ctx leg marks x) (link : String) (time : Stamp) :
    (Store.withLink link time row).Records ctx leg marks x := by
  obtain ⟨ack, read, is, terms⟩ := h.acknowledged
  exact ⟨h.shaped, ack, read, ⟨is.venueOrderId, is.user, is.venue, is.baseCoin, is.quoteCoin,
    is.side, is.type⟩, terms⟩

namespace Trail

/-- The trail of a leg that was submitted, acknowledged and written down. -/
def filing (slug : String) (x : Submission × Payload) (row : Order) : Trail where
  commands := [.submitted slug x.1]
  accepted := [x]
  rows := [row]

/-- **The rows of a trail record orders that were sent**, one by one and in the same order,
where `R` says what a row has to do with its order. -/
def RecordsSent (slug : String) (R : Order → Submission × Payload → Prop) (t : Trail) : Prop :=
  ∃ sent : List (Submission × Payload), List.Forall₂ R t.rows sent
    ∧ sent.Sublist t.accepted
    ∧ (sent.map fun x => JournalEntry.submitted slug x.1).Sublist t.commands

section

variable {slug : String} {R : Order → Submission × Payload → Prop} {t u : Trail}

theorem recordsSent_of_noRows (none : t.rows = []) : t.RecordsSent slug R :=
  ⟨[], by rw [none]; exact .nil, List.nil_sublist _, List.nil_sublist _⟩

theorem recordsSent_filing {x : Submission × Payload} {row : Order} (h : R row x) :
    (filing slug x row).RecordsSent slug R :=
  ⟨[x], .cons h .nil, .refl _, .refl _⟩

theorem RecordsSent.append (ht : t.RecordsSent slug R) (hu : u.RecordsSent slug R) :
    (t ++ u).RecordsSent slug R := by
  obtain ⟨sent, rows, accepted, commands⟩ := ht
  obtain ⟨sent', rows', accepted', commands'⟩ := hu
  refine ⟨sent ++ sent', List.rel_append rows rows', accepted.append accepted', ?_⟩
  rw [List.map_append]
  exact commands.append commands'

end

end Trail

namespace Desk

variable {ctx : Context} {d d' : Desk} {r : OrderRequest} {leg : Leg} {marks : Leg.Marks}
  {filed : Filed}

/-! ## One leg -/

/-- **A submission that was acknowledged.** -/
theorem said_of_submit {operation : String} {ack : Ack} {f g : Floor}
    (h : Floor.submit ctx leg operation f = (.ok ack, g)) :
    ∃ x : Submission × Payload, (leg.instruction ctx.symbol).shape ctx.slug = .ok x.1
      ∧ x.1.readAck x.2 = .ok ack ∧ Floor.Said ctx.slug f g [.submitted ctx.slug x.1] [x] := by
  have ends := Floor.submits ctx leg operation f
  rw [h] at ends
  cases ends with
  | @taken order answer _ _ shaped read said => exact ⟨(order, answer), shaped, read, said⟩

theorem leaves_of_submit {operation : String} {ack : Ack}
    (h : runFloor (Floor.submit ctx leg operation) d = (.ok ack, d')) :
    ∃ x : Submission × Payload, (leg.instruction ctx.symbol).shape ctx.slug = .ok x.1
      ∧ x.1.readAck x.2 = .ok ack
      ∧ Leaves ctx.slug d d' { commands := [.submitted ctx.slug x.1], accepted := [x] } := by
  obtain ⟨ran, only⟩ := of_runFloor h
  obtain ⟨x, shaped, read, said⟩ := said_of_submit ran
  exact ⟨x, shaped, read, leaves_of_floor only said⟩

/-- What was escalated has failed. -/
theorem not_ok_escalateAndFail {α : Type} {dv : Divergence} {operation : String} {a : α} :
    escalateAndFail dv operation d ≠ (.ok a, d') := by
  intro h
  unfold escalateAndFail at h
  rw [Run.lift_bind] at h
  cases h

/-- **What was written down** of an acknowledged order, when what cannot be written down is
escalated. -/
theorem of_written {α : Type} {x : StoreM α} {next : Except Fault α → DeskM α} {a : α}
    (returned : ∀ a, next (.ok a) = pure a)
    (escalated : ∀ e, ∃ dv operation, next (.error e) = escalateAndFail dv operation)
    (h : (liftM (tryStore x) >>= next) d = (.ok a, d')) : tryStore x d = (.ok a, d') := by
  rw [Run.lift_bind] at h
  rcases tried : tryStore x d with ⟨e | b, d₁⟩ <;> rw [tried] at h
  · obtain ⟨dv, operation, fails⟩ := escalated e
    rw [fails] at h
    exact absurd h not_ok_escalateAndFail
  · rw [returned] at h
    cases h
    rfl

/-- **The row of a single order** records its leg. -/
theorem records_executeSingle (h : executeSingle ctx r leg marks d = (.ok filed, d')) :
    ∃ x, filed.order.Records ctx leg marks x
      ∧ Leaves ctx.slug d d' (.filing ctx.slug x filed.order) := by
  obtain ⟨ack, d₁, submitted, h⟩ := Run.of_bind_ok h
  obtain ⟨x, shaped, read, stands⟩ := leaves_of_submit submitted
  obtain ⟨wrote, only⟩ := of_tryStore (of_written (fun _ => rfl) (fun _ => ⟨_, _, rfl⟩) h)
  rcases writeSingle_cases wrote with ⟨_, wrong, -⟩ | ⟨_, same, rows, is, terms, -, -⟩
  · cases wrong
  cases same
  have filing : Leaves ctx.slug d₁ d' { rows := [filed.order] } := leaves_of_store only rows
  exact ⟨x, ⟨shaped, ack, read, is, terms⟩, stands.trans filing⟩

/-- **The row of a protective order** records its leg. -/
theorem records_placeProtection (h : placeProtection ctx leg d = (.ok filed, d')) :
    ∃ x, filed.order.Records ctx leg { isManual := true } x
      ∧ Leaves ctx.slug d d' (.filing ctx.slug x filed.order) := by
  obtain ⟨ack, d₁, submitted, h⟩ := Run.of_bind_ok h
  obtain ⟨x, shaped, read, stands⟩ := leaves_of_submit submitted
  obtain ⟨ticket, d₂, made, h⟩ := Run.of_bind_ok h
  have silent : Silent ctx.slug d₁
      (runStore (Leg.recordNow ctx leg ack { isManual := true }) d₁).2 :=
    keeps_runStore Leg.keeps_recordNow d₁
  rw [made] at silent
  obtain ⟨found, recorded, same, -⟩ := of_runStore made
  cases found with
  | error e => cases same
  | ok ticket' =>
    cases same
    obtain ⟨wrote, only⟩ := of_tryStore (of_written (fun _ => rfl) (fun _ => ⟨_, _, rfl⟩) h)
    rcases Store.transaction_cases (Store.spares_addOrder ticket) wrote with
      ⟨_, wrong, -⟩ | ⟨_, begun, middle, same, before, body, after⟩
    · cases wrong
    cases same
    obtain ⟨-, isFor, -⟩ := Leg.of_recordNow recorded
    obtain ⟨rows, isMade, -⟩ := Store.of_addOrder body
    have filing : Leaves ctx.slug d₂ d' { rows := [filed.order] } :=
      leaves_of_store only ((before.wrote.trans rows).trans after.wrote)
    refine ⟨x, ⟨shaped, ack, read, isMade.isFor isFor, ?_⟩, (stands.done silent).trans filing⟩
    rw [Store.recordedTerms_of_addOrder body, Leg.recordedTerms_of_recordNow recorded]

/-- **A single order that stands** was made ready, in silence, before its leg was submitted. -/
theorem of_placeSingle {isManual : Bool} (h : placeSingle ctx r isManual d = (.ok filed, d')) :
    ∃ v fee slippage g clientId d₁,
      prepareSingle d.reference ctx r d.floor = (.ok (v, fee, slippage), g)
      ∧ Silent ctx.slug d d₁
      ∧ executeSingle ctx r (singleLeg r v clientId) (singleMarks r isManual fee slippage) d₁
        = (.ok filed, d') := by
  unfold placeSingle at h
  rw [Run.get_bind] at h
  have asked : Keeps (Silent ctx.slug) (runFloor (prepareSingle d.reference ctx r)).run :=
    keeps_runFloor (keeps_prepareSingle d.reference ctx r)
  rcases asked.of_bind h with ⟨_, -, wrong, -⟩ | ⟨⟨v, fee, slippage⟩, d₁, prepared, first, h⟩
  · cases wrong
  dsimp only at h
  rw [Run.lift_bind] at h
  have second : Silent ctx.slug d (clientIdOr r.clientId d₁).2 :=
    trans_of _ first (keeps_clientIdOr r.clientId d₁)
  rcases (keeps_runStore Store.keeps_beginTransaction).of_bind h with
    ⟨_, -, wrong, -⟩ | ⟨_, d₂, -, begun, h⟩
  · cases wrong
  exact ⟨v, fee, slippage, d₁.floor, _, d₂, (of_runFloor prepared).1, trans_of _ second begun, h⟩

/-- Its row records its leg. -/
theorem records_placeSingle {isManual : Bool}
    (h : placeSingle ctx r isManual d = (.ok filed, d')) :
    ∃ v fee slippage g clientId x,
      prepareSingle d.reference ctx r d.floor = (.ok (v, fee, slippage), g)
      ∧ filed.order.Records ctx (singleLeg r v clientId)
          (singleMarks r isManual fee slippage) x
      ∧ Leaves ctx.slug d d' (.filing ctx.slug x filed.order) := by
  obtain ⟨v, fee, slippage, g, clientId, d₁, prepared, silent, executed⟩ := of_placeSingle h
  obtain ⟨x, records, leaves⟩ := records_executeSingle executed
  exact ⟨v, fee, slippage, g, clientId, x, prepared, records, silent.then leaves⟩

/-! ## Both legs of a pair -/

/-- Both legs of a pair were acknowledged. -/
theorem said_of_submitBoth {profit stop : Leg} {acks : Ack × Ack} {f g : Floor}
    (h : submitBoth ctx profit stop f = (.ok acks, g)) :
    ∃ x y : Submission × Payload, (profit.instruction ctx.symbol).shape ctx.slug = .ok x.1
      ∧ x.1.readAck x.2 = .ok acks.1
      ∧ (stop.instruction ctx.symbol).shape ctx.slug = .ok y.1 ∧ y.1.readAck y.2 = .ok acks.2
      ∧ Floor.Said ctx.slug f g [.submitted ctx.slug x.1, .submitted ctx.slug y.1] [x, y] := by
  obtain ⟨first, f₁, submitted, h⟩ := Run.of_bind_ok h
  obtain ⟨second, f₂, submitted', h⟩ := Run.of_bind_ok h
  cases h
  obtain ⟨x, shaped, read, said⟩ := said_of_submit submitted
  rcases ran : Floor.submit ctx stop "place stop-loss order" f₁ with ⟨e | ack, f₃⟩
  · rw [submitSecond_of_error ran] at submitted'
    cases submitted'
  · rw [submitSecond_of_ok ran] at submitted'
    cases submitted'
    obtain ⟨y, shaped', read', said'⟩ := said_of_submit ran
    exact ⟨x, y, shaped, read, shaped', read', said.trans said'⟩

/-- **The rows of a pair** record its legs. -/
theorem records_executeOco {profit stop : Leg} {fee : Option FeeEstimate} {ticket : Ticket}
    (h : executeOco ctx r profit stop fee d = (.ok ticket, d')) :
    ∃ a b x y, a.Records ctx profit { isManual := true, fee := fee } x
      ∧ b.Records ctx stop { isManual := true } y
      ∧ Leaves ctx.slug d d' (.filing ctx.slug x a ++ .filing ctx.slug y b) := by
  obtain ⟨acks, d₁, spoken, h⟩ := Run.of_bind_ok h
  obtain ⟨submitted, only⟩ := of_runFloor spoken
  obtain ⟨x, y, shaped, read, shaped', read', said⟩ := said_of_submitBoth submitted
  have stand : Leaves ctx.slug d d₁ _ := leaves_of_floor only said
  obtain ⟨wrote, only'⟩ := of_tryStore (of_written (fun _ => rfl) (fun _ => ⟨_, _, rfl⟩) h)
  rcases writeOco_cases wrote with ⟨_, wrong, -⟩ | ⟨_, a, b, -, rows, pair, terms⟩
  · cases wrong
  have filing : Leaves ctx.slug d₁ d' { rows := [a, b] } := leaves_of_store only' rows
  exact ⟨a, b, x, y, ⟨shaped, acks.1, read, pair.first, terms.first⟩,
    ⟨shaped', acks.2, read', pair.second, terms.second⟩, stand.trans filing⟩

/-- **A pair that stands** was made ready, and its rows record its legs. -/
theorem records_placeOco {ticket : Ticket} (h : placeOco ctx r d = (.ok ticket, d')) :
    ∃ profit stop fee g baseId a b x y,
      prepareOco d.reference ctx r d.floor = (.ok (profit, stop, fee), g)
      ∧ a.Records ctx (profitLeg r profit baseId) { isManual := true, fee := fee } x
      ∧ b.Records ctx (stopLeg r stop baseId) { isManual := true } y
      ∧ Leaves ctx.slug d d' (.filing ctx.slug x a ++ .filing ctx.slug y b) := by
  unfold placeOco at h
  rw [Run.get_bind] at h
  have asked : Keeps (Silent ctx.slug) (runFloor (prepareOco d.reference ctx r)).run :=
    keeps_runFloor (keeps_prepareOco d.reference ctx r)
  rcases asked.of_bind h with ⟨_, -, wrong, -⟩ | ⟨⟨profit, stop, fee⟩, d₁, prepared, first, h⟩
  · cases wrong
  dsimp only at h
  rw [Run.lift_bind] at h
  have second : Silent ctx.slug d (clientIdOr r.clientId d₁).2 :=
    trans_of _ first (keeps_clientIdOr r.clientId d₁)
  obtain ⟨a, b, x, y, isFirst, isSecond, leaves⟩ := records_executeOco h
  exact ⟨profit, stop, fee, d₁.floor, _, a, b, x, y, (of_runFloor prepared).1, isFirst, isSecond,
    second.then leaves⟩

/-! ## Protection -/

/-- **A leg protects an entry**: it is one of the two legs that the request asks for. -/
inductive IsProtection (r : OrderRequest) (quantity : Float) : Leg → Prop where
  | stop {x : Float} {id : String} (stated : OrderRequest.stated r.stopLossPrice = some x) :
      IsProtection r quantity (stopProtection r.side.opposite quantity x id)
  | profit {x : Float} {id : String} (stated : OrderRequest.stated r.takeProfitPrice = some x) :
      IsProtection r quantity (profitProtection r.side.opposite quantity x id)

/-- **A row records the protection** of an entry. -/
def RecordsProtection (ctx : Context) (r : OrderRequest) (quantity : Float) (row : Order)
    (x : Submission × Payload) : Prop :=
  ∃ leg, IsProtection r quantity leg ∧ row.Records ctx leg { isManual := true } x

/-- A protective leg that failed left no row. -/
theorem unrecorded_of_error {e : Failure} (h : placeProtection ctx leg d = (.error e, d')) :
    ∃ t, Leaves ctx.slug d d' t ∧ t.rows = [] := by
  obtain ⟨t, leaves, trail⟩ := (placesLeg ctx leg d).trail
  rw [h] at leaves trail
  exact ⟨t, leaves, trail.rows⟩

/-- **Protective legs one after the other**: the rows that were written record their legs, also
when the legs break off. -/
theorem records_placeEach {R : Order → Submission × Payload → Prop} (entryId : String)
    {legs : List Leg}
    (each : ∀ leg ∈ legs, ∀ row x, row.Records ctx leg { isManual := true } x → R row x)
    (d : Desk) :
    ∃ t, Leaves ctx.slug d (placeEach ctx entryId legs d).2 t ∧ t.RecordsSent ctx.slug R := by
  -- on the legs, for every desk: each leg begins where the one before has ended
  induction legs generalizing d with
  | nil => exact ⟨{}, refl_of (Silent ctx.slug) d, Trail.recordsSent_of_noRows rfl⟩
  | cons leg rest ih =>
    have later := ih fun l mem => each l (List.mem_cons_of_mem _ mem)
    rcases placeEach_cons ctx entryId leg rest d with
      ⟨filed, d₁, ran, -, placed⟩ | ⟨e, d₁, d₂, ran, -, told, -, placed⟩
        | ⟨e, d₁, ran, -, -, placed⟩ <;> rw [placed]
    · obtain ⟨x, records, leaves⟩ := records_placeProtection ran
      have one : (Trail.filing ctx.slug x filed.order).RecordsSent ctx.slug R :=
        Trail.recordsSent_filing (each leg (List.mem_cons_self ..) filed.order x records)
      obtain ⟨u, leaves', records'⟩ := later d₁
      exact ⟨_, leaves.trans leaves', one.append records'⟩
    · obtain ⟨t, leaves, empty⟩ := unrecorded_of_error ran
      have silent : Silent ctx.slug d₁ d₂ := told ▸ keeps_notify ctx.slug rfl d₁
      obtain ⟨u, leaves', records⟩ := later d₂
      exact ⟨t ++ u, (leaves.done silent).trans leaves',
        (Trail.recordsSent_of_noRows empty).append records⟩
    · obtain ⟨t, leaves, empty⟩ := unrecorded_of_error ran
      exact ⟨t, leaves, Trail.recordsSent_of_noRows empty⟩

/-- What is linked records what it recorded before. -/
theorem Linking.recordsSent {R : Order → Submission × Payload → Prop} {slug : String}
    {s u : Store} {t : Trail} {rows : List Order}
    (relinks : ∀ row x link time, R row x → R (Store.withLink link time row) x)
    (h : Linking s u t.rows rows) (records : t.RecordsSent slug R) :
    ({ t with rows := rows } : Trail).RecordsSent slug R := by
  obtain ⟨sent, all, accepted, commands⟩ := records
  refine ⟨sent, ?_, accepted, commands⟩
  generalize t.rows = old at h all
  cases h with
  | failed fails => exact all
  | apart other same => exact all
  | linked succeeds =>
    obtain _ | ⟨first, _ | ⟨second, none⟩⟩ := all
    exact .cons (relinks _ _ _ _ first) (.cons (relinks _ _ _ _ second) none)

/-- **The rows of a protection** record its legs. -/
theorem records_protect (ctx : Context) (r : OrderRequest) (entry : Order) (d : Desk) :
    ∃ t, Leaves ctx.slug d (protect ctx r entry d).2 t
      ∧ t.RecordsSent ctx.slug (RecordsProtection ctx r entry.quantity) := by
  have sides := side_of_protectionLegs r entry.quantity d
  have silent := keeps_protectionLegs ctx.slug r entry.quantity d
  have each : ∀ leg ∈ (protectionLegs r entry.quantity d).1, ∀ row x,
      row.Records ctx leg { isManual := true } x →
      RecordsProtection ctx r entry.quantity row x := by
    intro leg mem row x records
    refine ⟨leg, ?_, records⟩
    rcases of_protectionLegs mem with ⟨y, id, stated, rfl⟩ | ⟨y, id, stated, rfl⟩
    · exact .stop stated
    · exact .profit stated
  unfold protect
  rw [Run.lift_bind]
  generalize (protectionLegs r entry.quantity d).1 = legs at sides each
  generalize (protectionLegs r entry.quantity d).2 = d₁ at silent
  obtain ⟨t, leaves, trail⟩ := leaves_placeEach ctx entry.id sides d₁
  obtain ⟨t', leaves', records⟩ := records_placeEach entry.id each d₁
  obtain rfl := leaves.unique leaves'
  rw [Run.bind_apply]
  rcases ended : placeEach ctx entry.id legs d₁ with ⟨e | placed, d₂⟩ <;> rw [ended] at leaves trail
  · exact ⟨t, silent.then leaves, records⟩
  · obtain ⟨rows, left, linking⟩ :=
      leaves_linking entry.id (silent.then leaves) (trail.rows placed rfl)
    refine ⟨_, left, linking.recordsSent ?_ records⟩
    rintro row x link time ⟨leg, is, records⟩
    exact ⟨leg, is, records.relink link time⟩

/-! ## Placements that fail -/

/-- A single order that was not placed has no row. -/
theorem PlacesOne.noRows {α : Type} {of : α → Ack → Order → Prop} {slug : String} {e : Failure}
    (h : PlacesOne of slug d (.error e) d') : ∃ t, Leaves slug d d' t ∧ t.rows = [] := by
  cases h with
  | failed unplaced leaves => exact ⟨_, leaves, by cases unplaced <;> rfl⟩
  | diverged read names stood escalated shown leaves => exact ⟨_, leaves, by cases shown <;> rfl⟩
  | withheld own silent => exact ⟨_, silent, rfl⟩

/-- A pair that was not placed has no rows. -/
theorem PlacesPair.noRows {user : String} {e : Failure}
    (h : PlacesPair r user d (.error e) d') : ∃ t, Leaves r.venue d d' t ∧ t.rows = [] := by
  cases h with
  | withheld own silent store => exact ⟨_, silent, rfl⟩
  | profitFailed halves noAck store leaves => exact ⟨_, leaves, rfl⟩
  | stopFailed halves read noAck store leaves => exact ⟨_, leaves, rfl⟩
  | diverged halves read read' names stood escalated shown leaves => exact ⟨_, leaves, by cases shown <;> rfl⟩

end Desk

/-! ## Placements -/

namespace Placement

open Desk (Leaves)

/-- The placement is one of a pair of orders. -/
def isPair : Placement → Bool
  | byStrategy _ _ => false
  | byHand r _ => r.type == .oco

/-- The order is placed by hand. -/
def isManual : Placement → Bool
  | byStrategy _ _ => false
  | byHand _ _ => true

/-- **A placement has found out what it is about**: the request is complete, and its context is
found. -/
structure Opens (p : Placement) (d : Desk) (ctx : Context) (f : Floor) : Prop where
  complete : p.request.ensureComplete = .ok ()
  found : Floor.context d.reference p.request p.user d.floor = (.ok ctx, f)

/-- **What a placement writes down**, as far as it goes: nothing, the two rows of a pair, or the
row of a single order and those of its protection. -/
inductive Books (p : Placement) (d : Desk) : Trail → Prop where
  | nothing {t : Trail} (noRows : t.rows = []) : Books p d t
  | pair {ctx : Context} {f g : Floor} {profit stop : ValidatedOrder}
      {fee : Option FeeEstimate} {baseId : String} {a b : Order} {x y : Submission × Payload}
      (isPair : p.isPair = true) (opens : p.Opens d ctx f)
      (prepared : Desk.prepareOco d.reference ctx p.request f = (.ok (profit, stop, fee), g))
      (first : a.Records ctx (Desk.profitLeg p.request profit baseId)
        { isManual := true, fee := fee } x)
      (second : b.Records ctx (Desk.stopLeg p.request stop baseId) { isManual := true } y) :
      Books p d (.filing ctx.slug x a ++ .filing ctx.slug y b)
  | single {ctx : Context} {f g : Floor} {v : ValidatedOrder} {fee : Option FeeEstimate}
      {slippage : Option Float} {clientId : String} {row : Order} {x : Submission × Payload}
      {u : Trail} (single : p.isPair = false) (apart : p.request.type ≠ .oco)
      (opens : p.Opens d ctx f)
      (prepared : Desk.prepareSingle d.reference ctx p.request f = (.ok (v, fee, slippage), g))
      (entry : row.Records ctx (Desk.singleLeg p.request v clientId)
        (Desk.singleMarks p.request p.isManual fee slippage) x)
      (protection : u.RecordsSent ctx.slug
        (Desk.RecordsProtection ctx p.request row.quantity)) :
      Books p d (.filing ctx.slug x row ++ u)

/-- What is found out first leaves what operations look things up in alone. -/
theorem opens_of_found {p : Placement} {d d₁ : Desk} {ctx : Context}
    (complete : p.request.ensureComplete = .ok ())
    (found : Desk.runFloor (Floor.context d.reference p.request p.user) d = (.ok ctx, d₁)) :
    p.Opens d ctx d₁.floor ∧ d₁.reference = d.reference ∧ ctx.slug = p.request.venue := by
  obtain ⟨ran, only⟩ := Desk.of_runFloor found
  exact ⟨⟨complete, ran⟩, by rw [only], (Floor.of_context ran).1⟩

/-- **Every placement writes down what it has sent**, whatever the venue answers and whatever
fails. -/
theorem books (p : Placement) (d : Desk) :
    ∃ t, Leaves p.venue d (p.run d).2 t ∧ p.Books d t := by
  cases p with
  | byStrategy r user =>
    rcases ran : Desk.createOrder r user d with ⟨res, d'⟩
    show ∃ t, Leaves r.venue d (Desk.createOrder r user d).2 t ∧ _
    rw [ran]
    rcases Desk.opening_found (Market.own_refuseIf _ _) r.own_ensureComplete ran with
      ⟨e, rfl, -, asks⟩ | ⟨ctx, d₁, next, found, automated, complete, asks⟩
    · exact ⟨{}, asks.silent r.venue, .nothing rfl⟩
    have apart : r.type ≠ .oco := fun isPair => by
      rw [isPair] at automated
      cases automated
    obtain ⟨opens, same, venue⟩ := opens_of_found (p := byStrategy r user) complete found
    rw [← show ctx.slug = r.venue from venue]
    have silent : Desk.Silent ctx.slug d d₁ := asks.silent ctx.slug
    rw [Run.map_apply] at next
    cases next
    have ends := Desk.placesOne_placeSingle ctx r false d₁
    rcases placed : Desk.placeSingle ctx r false d₁ with ⟨e | filed, d₂⟩ <;> rw [placed] at ends
    · obtain ⟨t, leaves, noRows⟩ := ends.noRows
      exact ⟨t, silent.then leaves, .nothing noRows⟩
    · obtain ⟨v, fee, slippage, g, clientId, x, prepared, entry, leaves⟩ :=
        Desk.records_placeSingle placed
      rw [same] at prepared
      have bare : ({} : Trail).RecordsSent ctx.slug
          (Desk.RecordsProtection ctx r filed.order.quantity) := Trail.recordsSent_of_noRows rfl
      refine ⟨_, ?_, .single rfl apart opens prepared entry bare⟩
      rw [Trail.append_empty]
      exact silent.then leaves
  | byHand r user =>
    rcases ran : Desk.placeManualOrder r user d with ⟨res, d'⟩
    show ∃ t, Leaves r.venue d (Desk.placeManualOrder r user d).2 t ∧ _
    rw [ran]
    rcases Desk.opening_found r.own_ensureComplete (OrderRequest.own_ensureSupported _ _) ran
      with ⟨e, rfl, -, asks⟩ | ⟨ctx, d₁, next, found, complete, -, asks⟩
    · exact ⟨{}, asks.silent r.venue, .nothing rfl⟩
    obtain ⟨opens, same, venue⟩ := opens_of_found (p := byHand r user) complete found
    have silent : Desk.Silent ctx.slug d d₁ := asks.silent ctx.slug
    by_cases isPair : r.type = .oco
    · have ends := Desk.placesPair isPair user d
      rw [ran] at ends
      cases res with
      | error e =>
        obtain ⟨t, leaves, noRows⟩ := ends.noRows
        exact ⟨t, leaves, .nothing noRows⟩
      | ok ticket =>
        rw [beq_iff_eq.mpr isPair] at next
        obtain ⟨profit, stop, fee, g, baseId, a, b, x, y, prepared, first, second, leaves⟩ :=
          Desk.records_placeOco (show Desk.placeOco ctx r d₁ = (.ok ticket, d') from next)
        rw [same] at prepared
        refine ⟨_, ?_, .pair (beq_iff_eq.mpr isPair) opens prepared first second⟩
        rw [← show ctx.slug = r.venue from venue]
        exact silent.then leaves
    · have single : (r.type == .oco) = false := beq_eq_false_iff_ne.mpr isPair
      rw [single] at next
      change Desk.placeProtected ctx r d₁ = _ at next
      unfold Desk.placeProtected at next
      rw [Run.bind_apply] at next
      rw [← show ctx.slug = r.venue from venue]
      have ends := Desk.placesOne_placeSingle ctx r true d₁
      rcases placed : Desk.placeSingle ctx r true d₁ with ⟨e | filed, d₂⟩ <;>
        rw [placed] at ends next
      · cases next
        obtain ⟨t, leaves, noRows⟩ := ends.noRows
        exact ⟨t, silent.then leaves, .nothing noRows⟩
      obtain ⟨v, fee, slippage, g, clientId, x, prepared, entry, leaves⟩ :=
        Desk.records_placeSingle placed
      rw [same] at prepared
      -- from here on the entry is written down, and only its protection is left
      obtain ⟨u, left, protection⟩ : ∃ u, Leaves ctx.slug d₂ d' u
          ∧ u.RecordsSent ctx.slug (Desk.RecordsProtection ctx r filed.order.quantity) := by
        dsimp only at next
        by_cases asksFor : Desk.asksForProtection r = true
        · rw [if_pos asksFor, Run.map_apply] at next
          cases next
          exact Desk.records_protect ctx r filed.order d₂
        · rw [if_neg asksFor] at next
          cases next
          exact ⟨{}, refl_of (Desk.Silent ctx.slug) _, Trail.recordsSent_of_noRows rfl⟩
      exact ⟨_, silent.then (leaves.trans left),
        .single single isPair opens prepared entry protection⟩

end Placement

end OrderDesk

import Mathlib.Data.List.Forall2
import OrderDesk.Desk.Protection
import OrderDesk.Proofs.Matching
import OrderDesk.Proofs.Writing

/-!
# Orders and stores in a view

What is expected of an order, its fee and its slippage, is written beside the order and
used for nothing else. To say so, two runs of the desk are compared in a *view*: with
everything, or without quotes and estimates. Without them, two rows are the same when they
are the same up to these two columns, and so are two tickets and two stores.

What the store does to a row goes through the view, since no operation reads either column:
`Ticket.toOrder_seen` says so of the step at which a ticket becomes a row. From it follows,
operation by operation, that stores which are the same in a view stay the same when the same
is written to them up to what the view leaves out.

There is one way around. A store that objects to a row quotes the whole ticket, estimates
included, and its words go into the incident about the order that was not stored. So incidents
may differ as well, but only there: the description of an incident is cut off before the ticket
begins, and what is left is the text of the error among everything that is known.
-/

namespace OrderDesk

/-- **How much of a desk is looked at.** -/
inductive View where
  /-- Everything. -/
  | whole
  /-- Everything beside what venues say about prices, books and fees, and beside what is
  expected of orders on these grounds. -/
  | orders
  deriving DecidableEq

/-! ## Rows and tickets -/

/-- A row without what was expected of its order. -/
def Order.unestimated (o : Order) : Order :=
  { o with estimatedFee := none, estimatedSlippage := none }

/-- A ticket without what was expected of its order. -/
def Ticket.unestimated (t : Ticket) : Ticket :=
  { t with estimatedFee := none, estimatedSlippage := none }

namespace Order

/-- A row in a view. -/
def seen : View → Order → Order
  | .whole, o => o
  | .orders, o => o.unestimated

variable {v : View} {o p : Order}

@[simp] theorem id_seen (v : View) (o : Order) : (o.seen v).id = o.id := by cases v <;> rfl

@[simp] theorem quantity_seen (v : View) (o : Order) : (o.seen v).quantity = o.quantity := by
  cases v <;> rfl

/-- A view leaves no row out of sight. -/
theorem id_eq_of_seen (h : o.seen v = p.seen v) : o.id = p.id := by
  simpa using congrArg Order.id h

theorem quantity_eq_of_seen (h : o.seen v = p.seen v) : o.quantity = p.quantity := by
  simpa using congrArg Order.quantity h

/-- **Linking a row goes through the view.** -/
theorem linked_seen (id link : String) (time : Stamp) (o : Order) :
    (Ledger.changed id (Store.withLink link time) o).seen v
      = Ledger.changed id (Store.withLink link time) (o.seen v) := by
  unfold Ledger.changed
  rw [id_seen]
  split
  · cases v <;> rfl
  · rfl

end Order

namespace Ticket

/-- A ticket in a view. -/
def seen : View → Ticket → Ticket
  | .whole, t => t
  | .orders, t => t.unestimated

variable {v : View}

@[simp] theorem id_seen (v : View) (t : Ticket) : (t.seen v).id = t.id := by cases v <;> rfl

@[simp] theorem type_seen (v : View) (t : Ticket) : (t.seen v).type = t.type := by
  cases v <;> rfl

@[simp] theorem transactTime_seen (v : View) (t : Ticket) :
    (t.seen v).transactTime = t.transactTime := by cases v <;> rfl

@[simp] theorem createdAt_seen (v : View) (t : Ticket) : (t.seen v).createdAt = t.createdAt := by
  cases v <;> rfl

@[simp] theorem updatedAt_seen (v : View) (t : Ticket) : (t.seen v).updatedAt = t.updatedAt := by
  cases v <;> rfl

/-- **What the store makes of a ticket goes through the view.** -/
theorem toOrder_seen (t : Ticket) (id : String) (transactTime createdAt updatedAt : Stamp) :
    (t.seen v).toOrder id transactTime createdAt updatedAt
      = (t.toOrder id transactTime createdAt updatedAt).map (Order.seen v) := by
  cases v with
  | whole =>
    show t.toOrder id transactTime createdAt updatedAt = _
    cases t.toOrder id transactTime createdAt updatedAt <;> rfl
  | orders =>
    show _ = Order.unestimated <$> t.toOrder id transactTime createdAt updatedAt
    unfold toOrder
    simp only [map_bind, map_pure]
    rfl

/-- **What goes through the view** makes the same of tickets that are the same in it. -/
theorem seen_congr {f : Ticket → Ticket} {t u : Ticket}
    (through : ∀ t, (f t).seen v = f (t.seen v)) (same : t.seen v = u.seen v) :
    (f t).seen v = (f u).seen v := by
  rw [through, through, same]

/-- What is settled when the row is written goes through the view. -/
theorem settle_seen (t : Ticket) (id : String) (transactTime createdAt updatedAt : Stamp) :
    (t.settle id transactTime createdAt updatedAt).seen v
      = (t.seen v).settle id transactTime createdAt updatedAt := by cases v <;> rfl

end Ticket

/-- **What was written is the same in a view**: the row, and the ticket of its holder. -/
structure Filed.SameIn (v : View) (f g : Filed) : Prop where
  order : f.order.seen v = g.order.seen v
  ticket : f.ticket.seen v = g.ticket.seen v

/-! ## What the store says to a ticket -/

/-- **Two faults are the same in a view**: they are the same, or they are what the store says
to two tickets that are the same in the view. -/
inductive Fault.SameIn (v : View) : Fault → Fault → Prop where
  | same (e : Fault) : Fault.SameIn v e e
  | objection (x : Objection) {t u : Ticket} (seen : t.seen v = u.seen v) :
      Fault.SameIn v (x.fault t) (x.fault u)

/-- **Two divergences are the same in a view**: they are the same, or they differ in what the
store said to two tickets that are the same in the view. -/
inductive Divergence.SameIn (v : View) : Divergence → Divergence → Prop where
  | same (dv : Divergence) : Divergence.SameIn v dv dv
  | objection (dv : Divergence) (x : Objection) {t u : Ticket} (seen : t.seen v = u.seen v) :
      Divergence.SameIn v { dv with error := some (x.text t) } { dv with error := some (x.text u) }

/-- **Two incidents are the same in a view**: they are the same, or what is known of them is
what is known of divergences that are the same. -/
inductive Incident.SameIn (v : View) : Incident → Incident → Prop where
  | same (i : Incident) : Incident.SameIn v i i
  | divergence (i : Incident) {dv dv' : Divergence} (same : dv.SameIn v dv') :
      Incident.SameIn v { i with metadata := dv.metadata } { i with metadata := dv'.metadata }

instance (v : View) : Std.Refl (Fault.SameIn v) := ⟨.same⟩

instance (v : View) : Std.Refl (Incident.SameIn v) := ⟨.same⟩

section

variable {v : View}

/-- Divergences that are the same in the whole view are the same. -/
theorem Divergence.SameIn.eq {dv dv' : Divergence} (h : dv.SameIn .whole dv') : dv = dv' := by
  cases h with
  | same => rfl
  | objection dv x seen =>
    cases seen
    rfl

/-- So are incidents. -/
theorem Incident.SameIn.eq {i j : Incident} (h : i.SameIn .whole j) : i = j := by
  cases h with
  | same => rfl
  | divergence i same => rw [same.eq]

/-- **A divergence is the same** when the fault that led to it is. -/
theorem Fault.SameIn.divergence {e e' : Fault} (h : e.SameIn v e') (ctx : Context)
    (operation : String) (ids : List String) (quantity : Float) (request : Payload) :
    (Desk.divergence ctx operation ids quantity request e).SameIn v
      (Desk.divergence ctx operation ids quantity request e') := by
  cases h with
  | same => exact .same _
  | objection x seen =>
    cases x with
    | beyondRange => exact .same _
    | unfilled | unbindable | taken =>
      exact .objection (Desk.divergence ctx operation ids quantity request .beyondStore) _ seen

/-- The statement alone is longer than a description. -/
theorem Ticket.length_statement : Store.descriptionLimit ≤ Ticket.statement.toList.length := by
  unfold statement
  simp only [String.toList_append, String.toList_intercalate]
  decide +kernel

/-- **What the store says comes to the ticket last**, after more than a description holds. -/
theorem Objection.toList_text (x : Objection) (t : Ticket) : ∃ rest,
    (x.text t).toList = (x.cause ++ "\n[SQL: ").toList ++ Ticket.statement.toList ++ rest := by
  unfold text
  simp only [String.toList_append, List.append_assoc]
  exact ⟨_, rfl⟩

/-- **The description of an incident is cut off before the ticket.** -/
theorem Objection.take_description (dv : Divergence) (x : Objection) (t u : Ticket) :
    ({ dv with error := some (x.text t) } : Divergence).description.toList.take
        Store.descriptionLimit
      = ({ dv with error := some (x.text u) } : Divergence).description.toList.take
        Store.descriptionLimit := by
  have cut (t : Ticket) :
      ({ dv with error := some (x.text t) } : Divergence).description.toList.take
          Store.descriptionLimit
        = ((dv.operation ++ " accepted by venue (" ++ dv.ids
            ++ ") but not persisted locally: ").toList
          ++ ((x.cause ++ "\n[SQL: ").toList ++ Ticket.statement.toList)).take
            Store.descriptionLimit := by
    obtain ⟨rest, told⟩ := x.toList_text t
    have whole : ({ dv with error := some (x.text t) } : Divergence).description.toList
        = (dv.operation ++ " accepted by venue (" ++ dv.ids
            ++ ") but not persisted locally: ").toList ++ (x.text t).toList :=
      String.toList_append
    rw [whole, told, ← List.append_assoc, List.take_append_of_le_length]
    have long := Ticket.length_statement
    simp only [List.length_append]
    omega
  rw [cut, cut]

/-- **The incident about a divergence** is the same when the divergence is. -/
theorem Divergence.SameIn.filed {dv dv' : Divergence} (h : dv.SameIn v dv') (id : String)
    (createdAt : Stamp) :
    (Store.filed dv.report id createdAt).SameIn v (Store.filed dv'.report id createdAt) := by
  cases h with
  | same => exact .same _
  | @objection dv x t u seen =>
    have said : Store.filed { dv with error := some (x.text u) }.report id createdAt
        = { Store.filed { dv with error := some (x.text t) }.report id createdAt with
            metadata := Divergence.metadata { dv with error := some (x.text u) } } := by
      unfold Store.filed
      rw [Incident.mk.injEq]
      -- the two texts are not to be compared as they stand
      have ids (error : Option String) : ({ dv with error := error } : Divergence).ids = dv.ids :=
        rfl
      have cut := congrArg String.ofList (x.take_description dv u t)
      exact ⟨rfl, rfl, rfl, rfl, congrArg some ((ids _).trans (ids _).symm), rfl, cut, rfl, rfl⟩
    rw [said]
    exact .divergence (Store.filed { dv with error := some (x.text t) }.report id createdAt)
      (.objection dv x seen)

end

/-! ## Stores -/

namespace Store

/-- **Two stores are the same in a view.** -/
structure SameIn (v : View) (s t : Store) : Prop where
  rows : s.ledger.rows.map (Order.seen v) = t.ledger.rows.map (Order.seen v)
  incidents : List.Forall₂ (Incident.SameIn v) s.incidents t.incidents
  usedIds : s.usedIds = t.usedIds
  readings : s.readings = t.readings
  plan : s.plan = t.plan

variable {v : View} {s t : Store}

theorem SameIn.refl (s : Store) : SameIn v s s :=
  ⟨rfl, List.forall₂_refl s.incidents, rfl, rfl, rfl⟩

/-- **Stores that are the same in the whole view are the same.** -/
theorem SameIn.eq (h : SameIn .whole s t) : s = t := by
  obtain ⟨⟨rows, _⟩, incidents, usedIds, readings, plan⟩ := s
  obtain ⟨⟨rows', _⟩, incidents', usedIds', readings', plan'⟩ := t
  obtain ⟨same, told, rfl, rfl, rfl⟩ := h
  have unseen : Order.seen .whole = id := rfl
  rw [unseen, List.map_id, List.map_id] at same
  obtain rfl : rows = rows' := same
  obtain rfl : incidents = incidents' := List.forall₂_eq_eq_eq ▸ told.imp fun _ _ h => Incident.SameIn.eq h
  rfl

/-! ### Rows -/

/-- The same identifiers are taken. -/
theorem SameIn.ids (h : SameIn v s t) :
    s.ledger.rows.map (·.id) = t.ledger.rows.map (·.id) := by
  have ids (rows : List Order) :
      (rows.map (Order.seen v)).map (·.id) = rows.map (·.id) := by simp
  rw [← ids, h.rows, ids]

/-- **A row is linked** in both stores. -/
theorem SameIn.link (h : SameIn v s t) (id other : String) (time : Stamp) :
    SameIn v { s with ledger := s.ledger.update id (withLink other time) }
      { t with ledger := t.ledger.update id (withLink other time) } := by
  refine ⟨?_, h.incidents, h.usedIds, h.readings, h.plan⟩
  have through (l : Ledger) : (l.update id (withLink other time)).rows.map (Order.seen v)
      = (l.rows.map (Order.seen v)).map (Ledger.changed id (withLink other time)) := by
    show (l.rows.map _).map _ = _
    rw [List.map_map, List.map_map]
    exact List.map_congr_left fun o _ => Order.linked_seen id other time o
  show (s.ledger.update id _).rows.map _ = (t.ledger.update id _).rows.map _
  rw [through, through, h.rows]

/-! ### Parts of a write -/

section

variable {α : Type}

/-- What only looks at the plan and changes it. -/
theorem respects_ofPlan_sameIn (f : FailurePlan → Except Fault α × FailurePlan) :
    Respects (SameIn v)
      (fun s => ((f s.plan).1, { s with plan := (f s.plan).2 }) : StateM Store (Except Fault α)) :=
  fun _ _ h => ⟨congrArg (fun p => (f p).1) h.plan,
    ⟨h.rows, h.incidents, h.usedIds, h.readings, congrArg (fun p => (f p).2) h.plan⟩⟩

namespace SameIn

theorem respects_beginTransaction : Respects (SameIn v) beginTransaction.run :=
  respects_ofPlan_sameIn fun p => (orFail (meet p.transaction none).1,
    { p with transaction := (meet p.transaction none).2 })

theorem respects_meetOrder (type : Option String) : Respects (SameIn v) (meetOrder type).run :=
  respects_ofPlan_sameIn fun p => (orFail (meet p.addOrder type).1,
    { p with addOrder := (meet p.addOrder type).2 })

theorem respects_meetIncident : Respects (SameIn v) meetIncident.run :=
  respects_ofPlan_sameIn fun p => (orFail (meet p.createIncident none).1,
    { p with createIncident := (meet p.createIncident none).2 })

theorem respects_meetLink : Respects (SameIn v) meetLink.run :=
  respects_ofPlan_sameIn fun p => (orFail (meet p.linkOrder none).1,
    { p with linkOrder := (meet p.linkOrder none).2 })

theorem respects_meetCommit : Respects (SameIn v) meetCommit.run :=
  respects_ofPlan_sameIn fun p => (orFail (meet p.commit none).1,
    { p with commit := (meet p.commit none).2 })

theorem respects_newId : Respects (SameIn v) newId.run :=
  fun _ _ h => ⟨congrArg (fun n => Except.ok ("id-" ++ Number.digitsText (n + 1))) h.usedIds,
    ⟨h.rows, h.incidents, congrArg (· + 1) h.usedIds, h.readings, h.plan⟩⟩

theorem respects_idOr (id : Option String) : Respects (SameIn v) (idOr id).run := by
  cases id with
  | some id => exact .answer id
  | none => exact respects_newId

theorem respects_now : Respects (SameIn v) now.run :=
  fun _ _ h => ⟨congrArg (fun n => Except.ok (Stamp.tick (n + 1))) h.readings,
    ⟨h.rows, h.incidents, h.usedIds, congrArg (· + 1) h.readings, h.plan⟩⟩

theorem respects_timeOr (time : Option Stamp) : Respects (SameIn v) (timeOr time).run := by
  cases time with
  | some time => exact .answer time
  | none => exact respects_now

theorem respects_linkTo (id other : String) : Respects (SameIn v) (linkTo id other).run :=
  .seq respects_meetLink fun _ => .seq respects_now fun time =>
    .seq (.change fun _ _ h => h.link id other time) fun _ => .answer time

end SameIn

end

/-- **A row is written** in both stores or in neither. -/
theorem matches_insertRow {ticket ticket' : Ticket} {o p : Order}
    (seen : ticket.seen v = ticket'.seen v) (same : o.seen v = p.seen v) :
    Matches (SameIn v) (Ends (Fault.SameIn v) (Filed.SameIn v)) (insertRow ticket o).run
      (insertRow ticket' p).run := by
  intro s t h
  show Ends (Fault.SameIn v) (Filed.SameIn v) (insertRow ticket o s).1 (insertRow ticket' p t).1
    ∧ SameIn v (insertRow ticket o s).2 (insertRow ticket' p t).2
  have both : o.id ∈ s.ledger.rows.map (·.id) ↔ p.id ∈ t.ledger.rows.map (·.id) := by
    rw [h.ids, Order.id_eq_of_seen same]
  unfold insertRow Ledger.insert?
  by_cases taken : o.id ∈ s.ledger.rows.map (·.id)
  · rw [dif_neg (not_not_intro taken), dif_neg (not_not_intro (both.mp taken))]
    exact ⟨.error (.objection .taken seen), h⟩
  · rw [dif_pos taken, dif_pos (mt both.mpr taken)]
    refine ⟨.ok ⟨same, seen⟩, ?_, h.incidents, h.usedIds, h.readings, h.plan⟩
    show (s.ledger.rows ++ [o]).map _ = (t.ledger.rows ++ [p]).map _
    rw [List.map_append, List.map_append, h.rows]
    exact congrArg (_ ++ [·]) same

/-- **A ticket is written** in both stores or in neither, and as the same row in the view. -/
theorem matches_addOrder {ticket ticket' : Ticket} (same : ticket.seen v = ticket'.seen v) :
    Matches (SameIn v) (Ends (Fault.SameIn v) (Filed.SameIn v)) (addOrder ticket).run
      (addOrder ticket').run := by
  have id : ticket.id = ticket'.id := by simpa using congrArg Ticket.id same
  have type : ticket.type = ticket'.type := by simpa using congrArg Ticket.type same
  have transactTime : ticket.transactTime = ticket'.transactTime := by
    simpa using congrArg Ticket.transactTime same
  have createdAt : ticket.createdAt = ticket'.createdAt := by
    simpa using congrArg Ticket.createdAt same
  have updatedAt : ticket.updatedAt = ticket'.updatedAt := by
    simpa using congrArg Ticket.updatedAt same
  unfold addOrder
  rw [id, type, transactTime, createdAt, updatedAt]
  refine .after (SameIn.respects_meetOrder _) fun _ => .after (SameIn.respects_idOr _) fun id =>
    .after (SameIn.respects_timeOr _) fun transactTime =>
    .after (SameIn.respects_timeOr _) fun createdAt =>
    .after (SameIn.respects_timeOr _) fun updatedAt => ?_
  have settled : (ticket.settle id transactTime createdAt updatedAt).seen v
      = (ticket'.settle id transactTime createdAt updatedAt).seen v := by
    rw [Ticket.settle_seen, Ticket.settle_seen, same]
  have rows : Ends (Fault.SameIn v) (fun o p => Order.seen v o = Order.seen v p)
      (ticket.row id transactTime createdAt updatedAt)
      (ticket'.row id transactTime createdAt updatedAt) :=
    .mapError (Ends.of_map_eq (by rw [← Ticket.toOrder_seen, ← Ticket.toOrder_seen, same]))
      fun x => .objection x settled
  exact .seq (fun s t h => ⟨rows, h⟩) fun row row' seen => matches_insertRow settled seen

/-! ### Transactions -/

section

variable {α : Type} {E : Fault → Fault → Prop} [Std.Refl E] {A : α → α → Prop}
  {body body' : StoreM α}

/-- **A transaction that was begun**: what is taken back leaves the stores as they were. -/
theorem matches_atomically (h : Matches (SameIn v) (Ends E A) body.run body'.run) :
    Matches (SameIn v) (Ends E A) (atomically body).run (atomically body').run := by
  intro s t before
  have done : Tallies (SameIn v) (Ends E A) (committed body).run (committed body').run s t :=
    .seq (h s t before) fun a b _ _ related =>
      Matches.after SameIn.respects_meetCommit (fun _ => .answer related) _ _ (h s t before).2
  obtain ⟨ends, after⟩ := done
  show Ends E A (atomically body s).1 (atomically body' t).1
    ∧ SameIn v (atomically body s).2 (atomically body' t).2
  replace ends : Ends E A (committed body s).1 (committed body' t).1 := ends
  replace after : SameIn v (committed body s).2 (committed body' t).2 := after
  unfold atomically
  rcases ran : committed body s with ⟨r, s'⟩
  rcases ran' : committed body' t with ⟨r', t'⟩
  rw [ran, ran'] at ends after
  cases ends with
  | ok related => exact ⟨.ok related, after⟩
  | error related =>
    exact ⟨.error related, before.rows, before.incidents, after.usedIds, after.readings,
      after.plan⟩

theorem matches_transaction (h : Matches (SameIn v) (Ends E A) body.run body'.run) :
    Matches (SameIn v) (Ends E A) (transaction body).run (transaction body').run := by
  intro s t before
  obtain ⟨r, s', t', (first : beginTransaction s = _), (second : beginTransaction t = _), begun⟩ :=
    (SameIn.respects_beginTransaction s t before).ran
  show Ends E A (transaction body s).1 (transaction body' t).1
    ∧ SameIn v (transaction body s).2 (transaction body' t).2
  unfold transaction
  rw [first, second]
  cases r with
  | ok _ => exact matches_atomically h s' t' begun
  | error e => exact ⟨.error (Std.Refl.refl e), begun⟩

end

/-! ### Incidents -/

section

variable {dv dv' : Divergence}

theorem matches_putIncident (same : dv.SameIn v dv') :
    Matches (SameIn v) (EndAlike (Incident.SameIn v)) (putIncident dv.report).run
      (putIncident dv'.report).run := by
  refine .after SameIn.respects_newId fun id => .after SameIn.respects_now fun createdAt => ?_
  have filed := same.filed id createdAt
  refine .seq (A := Eq) (fun s t h => ⟨.ok rfl, ?_⟩) fun _ _ _ => .answer filed
  exact ⟨h.rows, List.rel_append h.incidents (.cons filed .nil), h.usedIds, h.readings, h.plan⟩

/-- **An incident about a divergence** is written in both stores or in neither. -/
theorem matches_createIncident (same : dv.SameIn v dv') :
    Matches (SameIn v) (EndAlike (Incident.SameIn v)) (createIncident dv.report).run
      (createIncident dv'.report).run :=
  .after SameIn.respects_meetIncident fun _ => matches_transaction (matches_putIncident same)

end

end Store

/-! ## The record of a leg -/

/-- **Marks are the same in a view**: what is expected of the leg may differ where the view
leaves it out, but not the currency of the fee, which is recorded in a column of its own. -/
structure Leg.Marks.SameIn (v : View) (quote : String) (m m' : Leg.Marks) : Prop where
  isManual : m.isManual = m'.isManual
  isAlgorithmic : m.isAlgorithmic = m'.isAlgorithmic
  currency : (m.fee.map (·.currency)).getD quote = (m'.fee.map (·.currency)).getD quote
  whole : v = .whole → m = m'

namespace Leg

variable {v : View} {ctx : Context} {leg : Leg} {ack : Ack} {marks marks' : Leg.Marks}

/-- **The record of a leg** is the same in the view. -/
theorem record_seen (same : marks.SameIn v ctx.quote.symbol marks') :
    (record ctx leg ack marks).map (Ticket.seen v)
      = (record ctx leg ack marks').map (Ticket.seen v) := by
  cases v with
  | whole => rw [same.whole rfl]
  | orders =>
    unfold record
    rw [same.isManual, same.isAlgorithmic, same.currency]
    cases statusOf ack.status <;> rfl

/-- The record of a leg that was acknowledged now. -/
theorem matches_recordNow {E : Fault → Fault → Prop} [Std.Refl E] (same : marks.SameIn v ctx.quote.symbol marks') :
    Matches (Store.SameIn v) (Ends E fun t u => t.seen v = u.seen v)
      (recordNow ctx leg ack marks).run (recordNow ctx leg ack marks').run := by
  have records : Ends E (fun t u => Ticket.seen v t = Ticket.seen v u)
      (record ctx leg ack marks) (record ctx leg ack marks') := .of_map_eq (record_seen same)
  refine .seq (fun s t h => ⟨records, h⟩) fun ticket ticket' seen => ?_
  have transactTime : ticket.transactTime = ticket'.transactTime := by
    simpa using congrArg Ticket.transactTime seen
  rw [transactTime]
  exact .after (Store.SameIn.respects_timeOr _) fun time => .answer <|
    Ticket.seen_congr (f := fun t => { t with transactTime := some time })
      (fun t => by cases v <;> rfl) seen

end Leg

end OrderDesk

import OrderDesk.Desk.Leg
import OrderDesk.Proofs.Keeps

/-!
# What a write leaves behind

An operation on the store ends in one of two ways: it wrote what it was asked to write, or
it wrote nothing. That there is no third way is what transactions are for, and `Wrote` and
`Idles` are the two ways as relations between the store before and the store after. Under
both, what is planned to fail is not made worse: a store that would have taken an incident
before still takes one.
-/

namespace OrderDesk

/-- Nothing in the plan stands in the way of an incident. -/
structure FailurePlan.SparesIncidents (p : FailurePlan) : Prop where
  createIncident : p.createIncident = none
  transaction : p.transaction = none
  commit : p.commit = none

namespace Store

/-- A store that takes incidents still does. -/
def Spares (s t : Store) : Prop := s.plan.SparesIncidents → t.plan.SparesIncidents

instance : IsPreorder Store Spares where
  refl _ h := h
  trans _ _ _ h k spares := k (h spares)

/-- **What was written**: these rows and these incidents, after all that were there. -/
structure Wrote (s t : Store) (rows : List Order) (incidents : List Incident) : Prop where
  rows : t.ledger.rows = s.ledger.rows ++ rows
  incidents : t.incidents = s.incidents ++ incidents
  spares : Spares s t

/-- **Nothing was written.** -/
structure Idles (s t : Store) : Prop where
  ledger : t.ledger = s.ledger
  incidents : t.incidents = s.incidents
  spares : Spares s t

instance : IsPreorder Store Idles where
  refl s := ⟨rfl, rfl, refl_of Spares s⟩
  trans _ _ _ h k :=
    ⟨k.ledger.trans h.ledger, k.incidents.trans h.incidents, trans_of Spares h.spares k.spares⟩

variable {s t u : Store} {rows rows' : List Order} {incidents incidents' : List Incident}

theorem Idles.wrote (h : Idles s t) : Wrote s t [] [] :=
  ⟨by rw [h.ledger, List.append_nil], by rw [h.incidents, List.append_nil], h.spares⟩

theorem Wrote.trans (h : Wrote s t rows incidents) (k : Wrote t u rows' incidents') :
    Wrote s u (rows ++ rows') (incidents ++ incidents') := by
  refine ⟨?_, ?_, trans_of Spares h.spares k.spares⟩
  · rw [k.rows, h.rows, List.append_assoc]
  · rw [k.incidents, h.incidents, List.append_assoc]

/-! ## Parts of a write -/

/-- A plan without a failure lets the operation through and stays without. -/
theorem meet_none (type : Option String) : meet none type = (none, none) := rfl

theorem keeps_newId : Keeps Idles newId.run := fun _ => ⟨rfl, rfl, id⟩

theorem keeps_idOr (given : Option String) : Keeps Idles (idOr given).run := by
  cases given with
  | some id => exact .answer id
  | none => exact keeps_newId

theorem keeps_timeOr (time : Option Stamp) : Keeps Idles (timeOr time).run := by
  cases time with
  | some time => exact .answer time
  | none => exact fun _ => ⟨rfl, rfl, id⟩

theorem keeps_ofExcept {α : Type} (x : Except Fault α) : Keeps Idles (ofExcept x).run :=
  fun s => Std.Refl.refl s

theorem keeps_meetOrder (type : Option String) : Keeps Idles (meetOrder type).run :=
  fun _ => ⟨rfl, rfl, fun spares => ⟨spares.createIncident, spares.transaction, spares.commit⟩⟩

theorem keeps_meetLink : Keeps Idles meetLink.run :=
  fun _ => ⟨rfl, rfl, fun spares => ⟨spares.createIncident, spares.transaction, spares.commit⟩⟩

theorem keeps_beginTransaction : Keeps Idles beginTransaction.run := by
  intro s
  refine ⟨rfl, rfl, fun spares => ⟨spares.createIncident, ?_, spares.commit⟩⟩
  show (meet s.plan.transaction none).2 = none
  rw [spares.transaction, meet_none]

theorem keeps_meetCommit : Keeps Idles meetCommit.run := by
  intro s
  refine ⟨rfl, rfl, fun spares => ⟨spares.createIncident, spares.transaction, ?_⟩⟩
  show (meet s.plan.commit none).2 = none
  rw [spares.commit, meet_none]

theorem keeps_meetIncident : Keeps Idles meetIncident.run := by
  intro s
  refine ⟨rfl, rfl, fun spares => ⟨?_, spares.transaction, spares.commit⟩⟩
  show (meet s.plan.createIncident none).2 = none
  rw [spares.createIncident, meet_none]

/-- What writes nothing makes no plan worse. -/
theorem spares_of_idles {α : Type} {x : StoreM α} (h : Keeps Idles x.run) :
    Keeps Spares x.run :=
  fun s => (h s).spares

theorem spares_insertRow (t : Ticket) (o : Order) : Keeps Spares (insertRow t o).run := by
  intro s
  show Spares s (insertRow t o s).2
  unfold insertRow
  cases s.ledger.insert? o <;> exact refl_of Spares s

/-! ## Transactions -/

/-- **How a transaction ends that was begun before**: its body was run to its end and
committed, or nothing was written. -/
theorem atomically_cases {α : Type} {body : StoreM α} {r : Except Fault α}
    (spares : Keeps Spares body.run) (h : atomically body s = (r, t)) :
    (∃ e, r = .error e ∧ Idles s t)
    ∨ ∃ a middle, r = .ok a ∧ body s = (.ok a, middle) ∧ Idles middle t := by
  have kept : Keeps Spares (committed body).run :=
    .seq spares fun a => .seq (spares_of_idles keeps_meetCommit) fun _ => .answer a
  unfold atomically at h
  rcases ran : committed body s with ⟨e | a, after⟩ <;> rw [ran] at h
  · cases h
    -- the rows are taken back, but not the failures that the body met
    refine .inl ⟨e, rfl, rfl, rfl, ?_⟩
    have left : Spares s (committed body s).2 := kept s
    rwa [ran] at left
  · cases h
    obtain ⟨b, middle, first, rest⟩ := Run.of_bind_ok ran
    obtain ⟨_, last, met, ended⟩ := Run.of_bind_ok rest
    cases ended
    have left : Idles middle (meetCommit middle).2 := keeps_meetCommit middle
    rw [met] at left
    exact .inr ⟨a, middle, rfl, first, left⟩

/-- **How a transaction ends.** -/
theorem transaction_cases {α : Type} {body : StoreM α} {r : Except Fault α}
    (spares : Keeps Spares body.run) (h : transaction body s = (r, t)) :
    (∃ e, r = .error e ∧ Idles s t)
    ∨ ∃ a begun middle, r = .ok a ∧ Idles s begun ∧ body begun = (.ok a, middle)
        ∧ Idles middle t := by
  have first : Idles s (beginTransaction s).2 := keeps_beginTransaction s
  unfold transaction at h
  rcases started : beginTransaction s with ⟨e | _, begun⟩ <;> rw [started] at h first
  · cases h
    exact .inl ⟨e, rfl, first⟩
  · rcases atomically_cases spares h with ⟨e, rfl, idle⟩ | ⟨a, middle, rfl, ran, idle⟩
    · exact .inl ⟨e, rfl, trans_of Idles first idle⟩
    · exact .inr ⟨a, begun, middle, rfl, first, ran, idle⟩

end Store

/-! ## Rows and tickets -/

/-- **A ticket is that of a row**: it has the row's identifier and times, and the row is
what the store makes of it. -/
structure Ticket.IsOf (ticket : Ticket) (row : Order) : Prop where
  id : ticket.id = some row.id
  transactTime : ticket.transactTime = some row.transactTime
  createdAt : ticket.createdAt = some row.createdAt
  updatedAt : ticket.updatedAt = some row.updatedAt
  stored : ticket.toOrder row.id row.transactTime row.createdAt row.updatedAt = .ok row

/-- **A row is made of a ticket.** -/
structure Order.IsMadeOf (row : Order) (t : Ticket) : Prop where
  venueOrderId : t.venueOrderId = some row.venueOrderId
  user : t.user = some row.user
  venue : t.venue = some row.venue
  baseCoin : t.baseCoin = row.baseCoin
  quoteCoin : t.quoteCoin = row.quoteCoin
  side : t.side = some row.side
  type : t.type = some row.type
  /-- The order that is canceled with this one. -/
  link : t.link = row.link

namespace Ticket

/-- A filled column has what it is filled with. -/
theorem of_filled {α : Type} {column : String} {x : Option α} {a : α}
    (h : filled column x = .ok a) : x = some a := by
  cases x with
  | none => cases h
  | some b =>
    cases h
    rfl

/-- **What the store makes of a ticket**, and that it does not matter when the row was last
changed and what it is linked to. -/
theorem of_toOrder {t : Ticket} {id : String} {transactTime createdAt updatedAt : Stamp}
    {row : Order} (h : t.toOrder id transactTime createdAt updatedAt = .ok row) :
    row.IsMadeOf t
    ∧ (row.id = id ∧ row.transactTime = transactTime ∧ row.createdAt = createdAt
        ∧ row.updatedAt = updatedAt)
    ∧ ∀ link time, ({ t with link := link, updatedAt := some time } : Ticket).toOrder id
        transactTime createdAt time = .ok { row with link := link, updatedAt := time } := by
  unfold toOrder at h
  obtain ⟨clientId, client, h⟩ := Run.ok_of_bind h
  obtain ⟨label, symbol, h⟩ := Run.ok_of_bind h
  obtain ⟨feeCurrency, currency, h⟩ := Run.ok_of_bind h
  obtain ⟨venueOrderId, venueId, h⟩ := Run.ok_of_bind h
  obtain ⟨owner, user, h⟩ := Run.ok_of_bind h
  obtain ⟨slug, venue, h⟩ := Run.ok_of_bind h
  obtain ⟨pair, name, h⟩ := Run.ok_of_bind h
  obtain ⟨word, side, h⟩ := Run.ok_of_bind h
  obtain ⟨kind, type, h⟩ := Run.ok_of_bind h
  obtain ⟨amount, quantity, h⟩ := Run.ok_of_bind h
  cases h
  -- nothing that was required depends on the link or on the time of the last change
  refine ⟨⟨of_filled venueId, of_filled user, of_filled venue, rfl, rfl, of_filled side,
    of_filled type, rfl⟩, ⟨rfl, rfl, rfl, rfl⟩, fun link time => ?_⟩
  exact Run.bind_of_ok client <| Run.bind_of_ok symbol <| Run.bind_of_ok currency <|
    Run.bind_of_ok venueId <| Run.bind_of_ok user <| Run.bind_of_ok venue <|
    Run.bind_of_ok name <| Run.bind_of_ok side <| Run.bind_of_ok type <|
    Run.bind_of_ok quantity rfl

end Ticket

namespace Ledger

variable {id : String} {change : Order → Order}

/-- The row that a change is about. -/
theorem changed_self (o : Order) : changed o.id change o = { change o with id := o.id } :=
  if_pos (beq_self_eq_true o.id)

/-- A row that a change is not about. -/
theorem changed_other {o : Order} (h : o.id ≠ id) : changed id change o = o :=
  if_neg (by rwa [beq_iff_eq])

/-- **A change of a row that was written later** leaves the earlier ones alone. -/
theorem rows_update_append {l : Ledger} {old new : List Order} (h : l.rows = old ++ new)
    (later : id ∈ new.map (·.id)) :
    (l.update id change).rows = old ++ new.map (changed id change) := by
  have apart := l.distinct
  rw [h, List.map_append] at apart
  -- identifiers are distinct, so that no earlier row is meant
  have kept : old.map (changed id change) = old := by
    refine (List.map_congr_left fun o earlier => changed_other fun same => ?_).trans
      (List.map_id old)
    exact (List.nodup_append.mp apart).2.2 o.id (List.mem_map.mpr ⟨o, earlier, rfl⟩) id later
      same
  show l.rows.map _ = _
  rw [h, List.map_append, kept]

/-- Two rows at the end of the ledger have different identifiers. -/
theorem ids_ne_of_rows {l : Ledger} {old : List Order} {a b : Order}
    (h : l.rows = old ++ [a, b]) : a.id ≠ b.id := by
  have apart := l.distinct
  rw [h, List.map_append] at apart
  intro same
  have two := (List.nodup_append.mp apart).2.1
  exact (List.nodup_cons.mp two).1 (List.mem_singleton.mpr same)

/-- A change of the last row but one. -/
theorem rows_update_first {l : Ledger} {old : List Order} {a b : Order}
    (h : l.rows = old ++ [a, b]) :
    (l.update a.id change).rows = old ++ [{ change a with id := a.id }, b] := by
  have apart : b.id ≠ a.id := (ids_ne_of_rows h).symm
  rw [rows_update_append h (List.mem_cons_self ..)]
  show _ ++ [_, _] = _
  rw [changed_self, changed_other apart]

/-- A change of the last row. -/
theorem rows_update_last {l : Ledger} {old : List Order} {a b : Order}
    (h : l.rows = old ++ [a, b]) :
    (l.update b.id change).rows = old ++ [a, { change b with id := b.id }] := by
  have last : b.id ∈ [a, b].map (·.id) := List.mem_cons_of_mem _ (List.mem_singleton.mpr rfl)
  rw [rows_update_append h last]
  show _ ++ [_, _] = _
  rw [changed_self, changed_other (ids_ne_of_rows h)]

end Ledger

/-! ## Orders -/

namespace Store

variable {s t : Store}

theorem insertRow_cases {ticket : Ticket} {o : Order} {r : Except Fault Filed}
    (h : insertRow ticket o s = (r, t)) :
    (∃ e, r = .error e ∧ Idles s t) ∨ (r = .ok ⟨o, ticket⟩ ∧ Wrote s t [o] []) := by
  unfold insertRow at h
  cases inserted : s.ledger.insert? o with
  | none =>
    rw [inserted] at h
    cases h
    exact .inl ⟨_, rfl, refl_of Idles s⟩
  | some l =>
    rw [inserted] at h
    cases h
    exact .inr ⟨rfl, Ledger.rows_of_insert? inserted, (List.append_nil _).symm, id⟩

theorem spares_addOrder (ticket : Ticket) : Keeps Spares (addOrder ticket).run :=
  .seq (spares_of_idles (keeps_meetOrder _)) fun _ =>
    .seq (spares_of_idles (keeps_idOr _)) fun _ =>
    .seq (spares_of_idles (keeps_timeOr _)) fun _ =>
    .seq (spares_of_idles (keeps_timeOr _)) fun _ =>
    .seq (spares_of_idles (keeps_timeOr _)) fun _ =>
    .seq (spares_of_idles (keeps_ofExcept _)) fun _ => spares_insertRow _ _

/-- **How the writing of an order ends.** -/
theorem addOrder_cases {ticket : Ticket} {r : Except Fault Filed}
    (h : addOrder ticket s = (r, t)) :
    (∃ e, r = .error e ∧ Idles s t)
    ∨ ∃ filed, r = .ok filed ∧ Wrote s t [filed.order] [] ∧ filed.order.IsMadeOf ticket
        ∧ filed.ticket.IsOf filed.order := by
  -- every step before the insertion may fail, and writes nothing
  rcases (keeps_meetOrder _).of_bind h with ⟨e, -, rfl, i⟩ | ⟨_, s₁, -, i₁, h⟩
  · exact .inl ⟨e, rfl, i⟩
  rcases (keeps_idOr _).of_bind h with ⟨e, -, rfl, i⟩ | ⟨id, s₂, -, i₂, h⟩
  · exact .inl ⟨e, rfl, trans_of Idles i₁ i⟩
  have i₂ := trans_of Idles i₁ i₂
  rcases (keeps_timeOr _).of_bind h with ⟨e, -, rfl, i⟩ | ⟨transactTime, s₃, -, i₃, h⟩
  · exact .inl ⟨e, rfl, trans_of Idles i₂ i⟩
  have i₃ := trans_of Idles i₂ i₃
  rcases (keeps_timeOr _).of_bind h with ⟨e, -, rfl, i⟩ | ⟨createdAt, s₄, -, i₄, h⟩
  · exact .inl ⟨e, rfl, trans_of Idles i₃ i⟩
  have i₄ := trans_of Idles i₃ i₄
  rcases (keeps_timeOr _).of_bind h with ⟨e, -, rfl, i⟩ | ⟨updatedAt, s₅, -, i₅, h⟩
  · exact .inl ⟨e, rfl, trans_of Idles i₄ i⟩
  have i₅ := trans_of Idles i₄ i₅
  rcases (keeps_ofExcept _).of_bind h with ⟨e, -, rfl, i⟩ | ⟨row, s₆, made, i₆, h⟩
  · exact .inl ⟨e, rfl, trans_of Idles i₅ i⟩
  have i₆ := trans_of Idles i₅ i₆
  have stored : ticket.toOrder id transactTime createdAt updatedAt = .ok row :=
    Ticket.toOrder_of_row (congrArg Prod.fst made)
  rcases insertRow_cases h with ⟨e, rfl, i⟩ | ⟨rfl, wrote⟩
  · exact .inl ⟨e, rfl, trans_of Idles i₆ i⟩
  · obtain ⟨isMade, ⟨rfl, rfl, rfl, rfl⟩, -⟩ := Ticket.of_toOrder stored
    refine .inr ⟨_, rfl, i₆.wrote.trans wrote, isMade, ?_⟩
    exact ⟨rfl, rfl, rfl, rfl, stored⟩

/-- An order that was written. -/
theorem of_addOrder {ticket : Ticket} {filed : Filed} (h : addOrder ticket s = (.ok filed, t)) :
    Wrote s t [filed.order] [] ∧ filed.order.IsMadeOf ticket
      ∧ filed.ticket.IsOf filed.order := by
  rcases addOrder_cases h with ⟨_, wrong, -⟩ | ⟨_, same, found⟩
  · cases wrong
  · cases same
    exact found

/-! ## Links -/

theorem spares_linkTo (id other : String) : Keeps Spares (linkTo id other).run :=
  .seq (spares_of_idles keeps_meetLink) fun _ =>
    .seq (spares_of_idles (keeps_timeOr none)) fun _ =>
      .seq (.change fun _ spares => spares) fun _ => .answer _

/-- **How the linking of an order ends.** -/
theorem linkTo_cases {id other : String} {r : Except Fault Stamp}
    (h : linkTo id other s = (r, t)) :
    (∃ e, r = .error e ∧ Idles s t)
    ∨ ∃ time, r = .ok time ∧ t.ledger = s.ledger.update id (withLink other time)
        ∧ t.incidents = s.incidents ∧ Spares s t := by
  rcases keeps_meetLink.of_bind h with ⟨e, -, rfl, i⟩ | ⟨_, s₁, -, i₁, h⟩
  · exact .inl ⟨e, rfl, i⟩
  rcases (keeps_timeOr none).of_bind h with ⟨e, -, rfl, i⟩ | ⟨time, s₂, -, i₂, h⟩
  · exact .inl ⟨e, rfl, trans_of Idles i₁ i⟩
  have i₂ := trans_of Idles i₁ i₂
  rcases Run.of_bind h with ⟨_, wrong, -⟩ | ⟨_, s₃, changed, h⟩
  · cases wrong
  cases changed
  cases h
  exact .inr ⟨time, rfl, by rw [← i₂.ledger], i₂.incidents, i₂.spares⟩

/-! ## Incidents -/

end Store

/-- **An incident reports** what it was asked to report. -/
structure Incident.Reports (i : Incident) (r : IncidentReport) : Prop where
  type : i.type = r.type
  severity : i.severity = r.severity
  user : i.user = r.user
  symbol : i.symbol = r.symbol
  orderId : i.orderId = r.orderId
  metadata : i.metadata = r.metadata

namespace Store

variable {s t : Store}

/-- An incident is put among the others. -/
theorem putIncident_wrote (report : IncidentReport) (s : Store) :
    ∃ i t, putIncident report s = (.ok i, t) ∧ i.Reports report ∧ Wrote s t [] [i] :=
  ⟨_, _, rfl, ⟨rfl, rfl, rfl, rfl, rfl, rfl⟩, (List.append_nil _).symm, rfl, id⟩

theorem spares_putIncident (report : IncidentReport) :
    Keeps Spares (putIncident report).run := by
  intro s
  obtain ⟨i, t, ran, -, wrote⟩ := putIncident_wrote report s
  show Spares s (putIncident report s).2
  rw [ran]
  exact wrote.spares

/-- What the store says to a failure that was not planned. -/
theorem orFail_meet {f : Option PlannedFailure} (h : f = none) (type : Option String) :
    orFail (meet f type).1 = .ok () := by
  rw [h, meet_none]
  rfl

/-- A transaction is run to its end when its body is and nothing in the plan stands in the
way of its beginning and of its commit. -/
theorem transaction_of_plan {α : Type} {body : StoreM α} {a : α}
    (begins : s.plan.transaction = none) (h : body (beginTransaction s).2 = (.ok a, t))
    (commits : t.plan.commit = none) : ∃ u, transaction body s = (.ok a, u) := by
  have began : (beginTransaction s).1 = .ok () := orFail_meet begins none
  have committing : (meetCommit t).1 = .ok () := orFail_meet commits none
  have whole : committed body (beginTransaction s).2 = (.ok a, (meetCommit t).2) := by
    unfold committed
    rw [Run.bind_apply, h]
    show (meetCommit >>= fun _ => pure a : StoreM α) t = _
    rw [Run.bind_apply]
    rcases met : meetCommit t with ⟨e | _, u⟩ <;> rw [met] at committing
    · cases committing
    · rfl
  refine ⟨(meetCommit t).2, ?_⟩
  unfold transaction
  rcases started : beginTransaction s with ⟨e | _, begun⟩ <;> rw [started] at began whole
  · cases began
  · have ran : committed body begun = (.ok a, (meetCommit t).2) := whole
    show atomically body begun = _
    unfold atomically
    rw [ran]

/-- A store that takes incidents runs a transaction to its end when its body does. -/
theorem transaction_of_spares {α : Type} {body : StoreM α} {a : α}
    (spares : s.plan.SparesIncidents) (kept : Keeps Spares body.run)
    (h : body (beginTransaction s).2 = (.ok a, t)) :
    ∃ u, transaction body s = (.ok a, u) := by
  have still : Spares (beginTransaction s).2 (body (beginTransaction s).2).2 := kept _
  rw [h] at still
  exact transaction_of_plan spares.transaction h
    (still ((keeps_beginTransaction s).spares spares)).commit

/-- **How the writing of an incident ends.** It fails only when the plan says so. -/
theorem createIncident_cases {report : IncidentReport} {r : Except Fault Incident}
    (h : createIncident report s = (r, t)) :
    (∃ e, r = .error e ∧ Idles s t ∧ ¬ s.plan.SparesIncidents)
    ∨ ∃ i, r = .ok i ∧ i.Reports report ∧ Wrote s t [] [i] := by
  rcases keeps_meetIncident.of_bind h with ⟨e, failed, rfl, i⟩ | ⟨_, begun, -, first, h⟩
  · refine .inl ⟨e, rfl, i, fun spares => ?_⟩
    have met : (meetIncident s).1 = .ok () := orFail_meet spares.createIncident none
    rw [failed] at met
    cases met
  · rcases transaction_cases (spares_putIncident report) h with
      ⟨e, rfl, idle⟩ | ⟨i, start, middle, rfl, before, put, after⟩
    · refine .inl ⟨e, rfl, trans_of Idles first idle, fun spares => ?_⟩
      obtain ⟨i, u, put, -, -⟩ := putIncident_wrote report (beginTransaction begun).2
      obtain ⟨_, done⟩ :=
        transaction_of_spares (first.spares spares) (spares_putIncident report) put
      rw [h] at done
      cases done
    · obtain ⟨j, _, ran, reports, wrote⟩ := putIncident_wrote report start
      rw [put] at ran
      cases ran
      exact .inr ⟨i, rfl, reports, (trans_of Idles first before).wrote.trans
        (wrote.trans after.wrote)⟩

end Store

/-! ## The record of a leg -/

/-- **A ticket is for a leg** that a venue acknowledged. -/
structure Ticket.IsFor (t : Ticket) (ctx : Context) (leg : Leg) (ack : Ack) : Prop where
  venueOrderId : t.venueOrderId = some ack.id
  user : t.user = some ctx.user
  venue : t.venue = some ctx.slug
  baseCoin : t.baseCoin = some ctx.base.id
  quoteCoin : t.quoteCoin = some ctx.quote.id
  side : t.side = some leg.side.name
  type : t.type = some leg.recordType.name

/-- A ticket that differs in nothing of this from one for a leg is for the leg. -/
theorem Ticket.IsFor.carry {t u : Ticket} {ctx : Context} {leg : Leg} {ack : Ack}
    (h : t.IsFor ctx leg ack)
    (same : (u.venueOrderId, u.user, u.venue, u.baseCoin, u.quoteCoin, u.side, u.type)
      = (t.venueOrderId, t.user, t.venue, t.baseCoin, t.quoteCoin, t.side, t.type)) :
    u.IsFor ctx leg ack := by
  simp only [Prod.mk.injEq] at same
  obtain ⟨venueOrderId, user, venue, baseCoin, quoteCoin, side, type⟩ := same
  exact ⟨venueOrderId.trans h.venueOrderId, user.trans h.user, venue.trans h.venue,
    baseCoin.trans h.baseCoin, quoteCoin.trans h.quoteCoin, side.trans h.side,
    type.trans h.type⟩

/-- **A row is for a leg** that a venue acknowledged. -/
structure Order.IsFor (o : Order) (ctx : Context) (leg : Leg) (ack : Ack) : Prop where
  venueOrderId : o.venueOrderId = ack.id
  user : o.user = ctx.user
  venue : o.venue = ctx.slug
  baseCoin : o.baseCoin = some ctx.base.id
  quoteCoin : o.quoteCoin = some ctx.quote.id
  side : o.side = leg.side.name
  type : o.type = leg.recordType.name

/-- The row that is made of a ticket for a leg is for the leg. -/
theorem Order.IsMadeOf.isFor {o : Order} {t : Ticket} {ctx : Context} {leg : Leg} {ack : Ack}
    (made : o.IsMadeOf t) (h : t.IsFor ctx leg ack) : o.IsFor ctx leg ack where
  venueOrderId := Option.some.inj (made.venueOrderId.symm.trans h.venueOrderId)
  user := Option.some.inj (made.user.symm.trans h.user)
  venue := Option.some.inj (made.venue.symm.trans h.venue)
  baseCoin := made.baseCoin.symm.trans h.baseCoin
  quoteCoin := made.quoteCoin.symm.trans h.quoteCoin
  side := Option.some.inj (made.side.symm.trans h.side)
  type := Option.some.inj (made.type.symm.trans h.type)

namespace Leg

open Store (Idles)

variable {ctx : Context} {leg : Leg} {ack : Ack} {marks : Leg.Marks}

/-- **The record of a leg is for the leg**, and it is not linked. -/
theorem isFor_of_record {t : Ticket} (h : record ctx leg ack marks = .ok t) :
    t.IsFor ctx leg ack ∧ t.link = none := by
  obtain ⟨status, -, h⟩ := Run.ok_of_bind h
  cases h
  exact ⟨⟨rfl, rfl, rfl, rfl, rfl, rfl, rfl⟩, rfl⟩

theorem keeps_recordNow : Keeps Idles (recordNow ctx leg ack marks).run :=
  .seq (Store.keeps_ofExcept _) fun _ => .seq (Store.keeps_timeOr _) fun _ => .answer _

/-- **The record of a leg** that was acknowledged now writes nothing. -/
theorem of_recordNow {s u : Store} {t : Ticket}
    (h : recordNow ctx leg ack marks s = (.ok t, u)) :
    Idles s u ∧ t.IsFor ctx leg ack ∧ t.link = none := by
  have kept : Idles s (recordNow ctx leg ack marks s).2 := keeps_recordNow s
  rw [h] at kept
  obtain ⟨ticket, s₁, recorded, h⟩ := Run.of_bind_ok h
  obtain ⟨time, s₂, -, h⟩ := Run.of_bind_ok h
  cases h
  obtain ⟨isFor, link⟩ := isFor_of_record (congrArg Prod.fst recorded)
  exact ⟨kept, isFor.carry rfl, link⟩

end Leg

/-! ## The terms of an order on record -/

/-- **The terms that an order on record shows**: those that it was placed with, and the
estimates that went with it. -/
structure RecordedTerms where
  price : Option Float
  /-- The price at which a stop becomes active. -/
  stopPrice : Option Float
  /-- The distance of a trailing stop. -/
  trailingAmount : Option Float
  /-- What the distance is measured in. -/
  trailingType : Option String
  /-- How long the order stands. -/
  timeInForce : Option String
  /-- The fee that was expected. -/
  estimatedFee : Option Float
  /-- The slippage that was expected. -/
  estimatedSlippage : Option Float

/-- Terms as the store keeps them. -/
def RecordedTerms.kept (t : RecordedTerms) : RecordedTerms :=
  { t with
    price := Ticket.keptNumber t.price
    stopPrice := Ticket.keptNumber t.stopPrice
    trailingAmount := Ticket.keptNumber t.trailingAmount
    estimatedFee := Ticket.keptNumber t.estimatedFee
    estimatedSlippage := Ticket.keptNumber t.estimatedSlippage }

/-- The terms that a ticket shows. -/
def Ticket.recordedTerms (t : Ticket) : RecordedTerms :=
  ⟨t.price, t.stopPrice, t.trailingAmount, t.trailingType, t.timeInForce, t.estimatedFee,
    t.estimatedSlippage⟩

/-- The terms that a row shows. -/
def Order.recordedTerms (o : Order) : RecordedTerms :=
  ⟨o.price, o.stopPrice, o.trailingAmount, o.trailingType, o.timeInForce, o.estimatedFee,
    o.estimatedSlippage⟩

/-- What an order is linked to is none of its terms. -/
theorem Ticket.recordedTerms_link (t : Ticket) (link : Option String) :
    ({ t with link := link } : Ticket).recordedTerms = t.recordedTerms := rfl

theorem Order.recordedTerms_withLink (o : Order) (link : String) (time : Stamp) :
    (Store.withLink link time o).recordedTerms = o.recordedTerms := rfl

/-- **The terms that are recorded of a leg.** The price is the one that the venue reports,
else the limit. -/
def Leg.recordedTerms (leg : Leg) (ack : Ack) (marks : Leg.Marks) : RecordedTerms where
  price := Booking.either ack.price leg.price
  stopPrice := leg.stopPrice
  trailingAmount := leg.trailingAmount
  trailingType := leg.trailingType.map TrailingType.name
  timeInForce := leg.timeInForce.map TimeInForce.name
  estimatedFee := marks.fee.map (·.amount)
  estimatedSlippage := marks.slippage

namespace Leg

variable {ctx : Context} {leg : Leg} {ack : Ack} {marks : Leg.Marks} {t : Ticket}

theorem recordedTerms_of_record (h : record ctx leg ack marks = .ok t) :
    t.recordedTerms = leg.recordedTerms ack marks := by
  obtain ⟨status, -, h⟩ := Run.ok_of_bind h
  cases h
  rfl

/-- **The record of a leg shows its terms.** -/
theorem recordedTerms_of_recordNow {s u : Store}
    (h : recordNow ctx leg ack marks s = (.ok t, u)) :
    t.recordedTerms = leg.recordedTerms ack marks := by
  obtain ⟨ticket, s₁, recorded, h⟩ := Run.of_bind_ok h
  obtain ⟨time, s₂, -, h⟩ := Run.of_bind_ok h
  cases h
  have shown : ticket.recordedTerms = _ := recordedTerms_of_record (congrArg Prod.fst recorded)
  exact shown

end Leg

/-- **A row shows the terms of its ticket**, as the store keeps them. -/
theorem Ticket.recordedTerms_of_toOrder {t : Ticket} {id : String}
    {transactTime createdAt updatedAt : Stamp} {row : Order}
    (h : t.toOrder id transactTime createdAt updatedAt = .ok row) :
    row.recordedTerms = t.recordedTerms.kept := by
  -- ten columns are checked before the row is made
  iterate 10 obtain ⟨_, -, h⟩ := Run.ok_of_bind h
  cases h
  rfl

/-- An order that was written shows the terms of its ticket. -/
theorem Store.recordedTerms_of_addOrder {t : Ticket} {filed : Filed} {s u : Store}
    (h : addOrder t s = (.ok filed, u)) : filed.order.recordedTerms = t.recordedTerms.kept := by
  obtain ⟨_, s₁, -, h⟩ := Run.of_bind_ok h
  obtain ⟨id, s₂, -, h⟩ := Run.of_bind_ok h
  obtain ⟨transactTime, s₃, -, h⟩ := Run.of_bind_ok h
  obtain ⟨createdAt, s₄, -, h⟩ := Run.of_bind_ok h
  obtain ⟨updatedAt, s₅, -, h⟩ := Run.of_bind_ok h
  obtain ⟨row, s₆, made, h⟩ := Run.of_bind_ok h
  rcases insertRow_cases h with ⟨_, wrong, -⟩ | ⟨same, -⟩
  · cases wrong
  · cases same
    exact Ticket.recordedTerms_of_toOrder (Ticket.toOrder_of_row (congrArg Prod.fst made))

end OrderDesk

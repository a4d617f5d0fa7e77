import OrderDesk.Proofs.Placements

/-!
# When protection is best effort

Protection is attached to an entry that stands. Whatever becomes of it, the entry is what the
caller asked for first, so its ticket is to be given to the caller, and its row is not to be
touched. And a protective order that the venue acknowledged exists: it is to be found in the
store, or an incident is to name it.

The row of the entry is never touched. The rest holds as far as two things go well. A status
that is no text is found out when the record of a protective order is made up, which is done
outside of the part that escalates. Such a status is a fault, it is not foreseen, and it ends
the whole operation: the order at the venue is neither stored nor reported, the legs after it
are not placed, and the caller is told that the entry failed. And an incident that cannot be
written is not an incident; then an alarm says that it was lost. That is so for the escalations
whose incident the store does not take, as it is when they are made, and for no other
(`Attaches.reported`, `Attaches.lost`).

There is nothing else. Whatever the venue answers, and whatever the store fails at, protection
is best effort exactly when no acknowledged status was `Mute` and the store takes the incident of
every escalation.
-/

namespace OrderDesk

/-! ## What becomes of acknowledged orders -/

/-- **A mute answer** can be read as the answer to an order, but the status in it cannot. -/
def Mute (x : Submission × Payload) : Prop :=
  ∃ ack e, x.1.readAck x.2 = .ok ack ∧ Leg.statusOf ack.status = .error e

/-- Every answer that is not mute tells as much as it can. -/
theorem recordId?_of_not_mute {x : Submission × Payload} (h : ¬ Mute x) :
    recordId? x = readId? x := by
  unfold recordId? readId?
  cases read : x.1.readAck x.2 with
  | error e => rfl
  | ok ack =>
    cases word : Leg.statusOf ack.status with
    | error e => exact absurd ⟨ack, e, read, word⟩ h
    | ok status =>
      show ((some ack).filter _).map _ = _
      rw [Option.filter_some, word]
      rfl

/-- The orders of a notice that their incident was lost. -/
def Notice.lost : Notice → List String
  | .incidentLost ids => ids
  | _ => []

namespace Trail

/-- The orders that the incidents of a trail name. -/
def reported (t : Trail) : List String := t.incidents.filterMap (·.orderId)

/-- The orders whose incidents were lost. -/
def lost (t : Trail) : List String := t.alarms.flatMap (·.lost)

/-- **The orders that a trail settles**: they are stored, or an incident names them, or their
incident was lost. -/
def settled (t : Trail) : Multiset String :=
  (t.rows.map (·.venueOrderId) : Multiset String) + t.reported + t.lost

theorem lost_append (t u : Trail) : (t ++ u).lost = t.lost ++ u.lost :=
  List.flatMap_append

theorem reported_append (t u : Trail) : (t ++ u).reported = t.reported ++ u.reported :=
  List.filterMap_append

/-- What two trails settle adds up. -/
theorem settled_append (t u : Trail) : (t ++ u).settled = t.settled + u.settled := by
  have rows : ((t ++ u).rows.map (·.venueOrderId) : Multiset String)
      = (t.rows.map (·.venueOrderId) : Multiset String)
        + (u.rows.map (·.venueOrderId) : Multiset String) := by
    rw [Multiset.coe_add, ← List.map_append]
    rfl
  unfold settled
  rw [rows, reported_append, lost_append, ← Multiset.coe_add, ← Multiset.coe_add]
  abel

end Trail

namespace Desk.Escalation

/-- **The orders that incidents name** when these are the escalations. -/
def reported (xs : List Escalation) : List String := (xs.filter (·.isTaken)).map (·.divergence.ids)

/-- **The orders whose incidents are lost** when these are the escalations. -/
def lost (xs : List Escalation) : List String := (xs.filter (!·.isTaken)).map (·.divergence.ids)

theorem reported_append (xs ys : List Escalation) :
    reported (xs ++ ys) = reported xs ++ reported ys := by
  unfold reported
  rw [List.filter_append, List.map_append]

theorem lost_append (xs ys : List Escalation) : lost (xs ++ ys) = lost xs ++ lost ys := by
  unfold lost
  rw [List.filter_append, List.map_append]

/-- No incident is lost exactly when all are taken. -/
theorem lost_eq_nil_iff {xs : List Escalation} : lost xs = [] ↔ ∀ x ∈ xs, x.isTaken = true := by
  unfold lost
  rw [List.map_eq_nil_iff, List.filter_eq_nil_iff]
  exact forall₂_congr fun x _ => by rw [Bool.not_eq_true', Bool.not_eq_false]

/-- **The escalation of one order settles it**, in the one way or in the other. -/
theorem settled_of_shown {x : Escalation} {t : Trail} {id : String}
    (names : x.divergence.venueOrderIds = [id]) (h : x.divergence.Shown x.desk.store t) :
    t.settled = ([id] : List String) ∧ t.reported = reported [x] ∧ t.lost = lost [x] := by
  have named : x.divergence.ids = id := by
    unfold Divergence.ids
    rw [names]
    rfl
  cases h with
  | @recorded i writes reports =>
    have taken : x.isTaken = true := by
      unfold isTaken
      rw [writes]
      rfl
    have reported' : Trail.reported { alarms := [.unreconciled x.divergence], incidents := [i] }
        = [id] := by
      rw [← named]
      exact List.filterMap_cons_some reports.orderId
    refine ⟨?_, ?_, ?_⟩
    · unfold Trail.settled
      rw [reported']
      rfl
    · rw [reported', reported, List.filter_singleton, taken, ← named]
      rfl
    · rw [lost, List.filter_singleton, taken]
      rfl
  | lost fails planned =>
    have untaken : x.isTaken = false := by
      unfold isTaken
      rw [fails]
      rfl
    have lost' : Trail.lost { alarms := [.unreconciled x.divergence,
        .incidentLost x.divergence.venueOrderIds] } = [id] := by
      rw [names]
      rfl
    refine ⟨?_, ?_, ?_⟩
    · unfold Trail.settled
      rw [lost']
      rfl
    · rw [reported, List.filter_singleton, untaken]
      rfl
    · rw [lost', lost, List.filter_singleton, untaken, ← named]
      rfl

end Desk.Escalation

namespace Desk

variable {ctx : Context} {d d' : Desk} {slug : String} {t u : Trail}

/-- **A trail settles its orders**, as far as their answers and statuses could be read, by the
escalations of what left it, and this was broken off exactly by a mute answer. -/
structure Settles (xs : List Escalation) (broken : Prop) (t : Trail) : Prop where
  settled : t.settled = (t.accepted.filterMap recordId? : List String)
  /-- Incidents name the orders of the escalations whose incidents are taken. -/
  reported : t.reported = Escalation.reported xs
  /-- The incidents of the others are lost. -/
  lost : t.lost = Escalation.lost xs
  broken : broken ↔ ∃ x ∈ t.accepted, Mute x

/-- One trail after the other. -/
theorem Settles.append {xs ys : List Escalation} {b b' b'' : Prop} (ht : Settles xs b t)
    (hu : Settles ys b' u) (either : b'' ↔ b ∨ b') : Settles (xs ++ ys) b'' (t ++ u) where
  settled := by
    rw [Trail.settled_append, ht.settled, hu.settled, Multiset.coe_add, ← List.filterMap_append]
    rfl
  reported := by rw [Trail.reported_append, ht.reported, hu.reported, Escalation.reported_append]
  lost := by rw [Trail.lost_append, ht.lost, hu.lost, Escalation.lost_append]
  broken := by
    rw [either, ht.broken, hu.broken]
    constructor
    · rintro (⟨x, mem, mute⟩ | ⟨x, mem, mute⟩)
      · exact ⟨x, List.mem_append_left _ mem, mute⟩
      · exact ⟨x, List.mem_append_right _ mem, mute⟩
    · rintro ⟨x, mem, mute⟩
      rcases List.mem_append.mp mem with first | later
      · exact .inl ⟨x, first, mute⟩
      · exact .inr ⟨x, later, mute⟩

/-- Where nothing is left behind, there is nothing to settle. -/
theorem settles_empty {broken : Prop} (whole : ¬ broken) : Settles [] broken {} := by
  refine ⟨rfl, rfl, rfl, iff_of_false whole ?_⟩
  rintro ⟨x, wrong, -⟩
  cases wrong

/-! ## One leg -/

/-- The placement of a leg fails for an unforeseen reason. -/
def Faults (r : Except Failure Filed) : Prop := ∃ e, r = .error e ∧ e.isForeseen = false

theorem not_faults_ok (filed : Filed) : ¬ Faults (.ok filed) := by
  rintro ⟨e, ⟨⟩, -⟩

theorem not_faults_of_isForeseen {e : Failure} (h : e.isForeseen = true) :
    ¬ Faults (.error e) := by
  rintro ⟨_, ⟨⟩, unforeseen⟩
  rw [h] at unforeseen
  cases unforeseen

/-- An answer with a readable status is not mute. -/
theorem not_mute_of_status {order : Submission} {answer : Payload} {ack : Ack}
    {status : OrderStatus} (read : order.readAck answer = .ok ack)
    (word : Leg.statusOf ack.status = .ok status) : ¬ Mute (order, answer) := by
  rintro ⟨ack', e, read', unread⟩
  rw [read] at read'
  cases read'
  rw [word] at unread
  cases unread

/-- Where no acknowledgement was given, there is nothing to settle. -/
theorem settles_of_unplaced {broken : Prop} (h : Unplaced slug t) (whole : ¬ broken) :
    Settles [] broken t := by
  cases h with
  | unshaped => exact settles_empty whole
  | attempted noAck =>
    refine ⟨?_, rfl, rfl, iff_of_false whole ?_⟩
    · rw [noAck.recordIds]
      rfl
    · rintro ⟨x, mem, ack, e, read, -⟩
      cases noAck with
      | refused => cases mem
      | unread unread =>
        obtain rfl := List.mem_singleton.mp mem
        rw [unread] at read
        cases read

/-- **Whatever happens to a leg**, its trail settles it. -/
theorem PlacesLeg.settles {leg : Leg} {res : Except Failure Filed}
    (h : PlacesLeg ctx leg d res d') :
    ∃ t, Leaves ctx.slug d d' t ∧ Settles (escalation? ctx leg d).toList (Faults res) t := by
  cases h with
  | @placed order answer ack _ filed _ read word is alone calm leaves =>
    rw [calm]
    refine ⟨_, leaves, ?_, rfl, rfl, ?_⟩
    · show _ = (((order, answer) :: []).filterMap recordId? : Multiset String)
      rw [List.filterMap_cons_some (recordId?_of_read read word), ← is.venueOrderId]
      rfl
    · refine iff_of_false (not_faults_ok filed) ?_
      rintro ⟨x, mem, mute⟩
      obtain rfl := List.mem_singleton.mp mem
      exact not_mute_of_status read word mute
  | failed unplaced calm leaves =>
    rw [calm]
    exact ⟨_, leaves, settles_of_unplaced unplaced (not_faults_of_isForeseen rfl)⟩
  | unrecorded read word calm leaves =>
    rw [calm]
    refine ⟨_, leaves, ?_, rfl, rfl, ?_⟩
    · rw [List.filterMap_cons_none (recordId?_of_unread read word)]
      rfl
    · exact iff_of_true ⟨_, rfl, rfl⟩ ⟨_, List.mem_singleton.mpr rfl, _, _, read, word⟩
  | @diverged order answer ack status x t _ read word names escalated shown leaves =>
    rw [escalated]
    obtain ⟨settled, reported, lost⟩ := Escalation.settled_of_shown names shown
    have nothing : t.accepted = [] := (Trail.accountedFor_of_shown shown).2
    have accepted : ({ commands := [.submitted ctx.slug order],
                       accepted := [(order, answer)] } ++ t : Trail).accepted
        = [(order, answer)] := by
      show (order, answer) :: t.accepted = _
      rw [nothing]
    refine ⟨_, leaves, ?_, reported, lost, iff_of_false (not_faults_of_isForeseen rfl) ?_⟩
    · rw [Trail.settled_append, settled, accepted,
        List.filterMap_cons_some (recordId?_of_read read word)]
      rfl
    · rw [accepted]
      rintro ⟨x, mem, mute⟩
      obtain rfl := List.mem_singleton.mp mem
      exact not_mute_of_status read word mute

/-! ## All legs -/

/-- **A trail is the only one** between two states of the desk. -/
theorem Leaves.unique (h : Leaves slug d d' t) (k : Leaves slug d d' u) : t = u := by
  have commands := List.append_cancel_left (h.commands.symm.trans k.commands)
  have accepted := List.append_cancel_left (h.accepted.symm.trans k.accepted)
  have alarms := List.append_cancel_left (h.alarms.symm.trans k.alarms)
  have rows := List.append_cancel_left (h.wrote.rows.symm.trans k.wrote.rows)
  have incidents := List.append_cancel_left (h.wrote.incidents.symm.trans k.wrote.incidents)
  cases t
  cases u
  cases commands
  cases accepted
  cases alarms
  cases rows
  cases incidents
  rfl

/-- An operation fails. -/
def Fails {α : Type} (r : Except Failure α) : Prop := ∃ e, r = .error e

theorem not_fails_ok {α : Type} (a : α) : ¬ Fails (.ok a) := by
  rintro ⟨e, ⟨⟩⟩

theorem fails_map {α β : Type} {f : α → β} {r : Except Failure α} : Fails (r.map f) ↔ Fails r := by
  cases r with
  | ok a => exact iff_of_false (not_fails_ok _) (not_fails_ok a)
  | error e => exact iff_of_true ⟨e, rfl⟩ ⟨e, rfl⟩

/-- **Protective legs one after the other** settle their orders, and they are broken off
exactly by a mute answer. -/
theorem settles_placeEach (ctx : Context) (entryId : String) (legs : List Leg) (d : Desk) :
    ∃ t, Leaves ctx.slug d (placeEach ctx entryId legs d).2 t
      ∧ Settles (escalations ctx entryId legs d) (Fails (placeEach ctx entryId legs d).1) t := by
  -- on the legs, for every desk: each leg begins where the one before has ended
  induction legs generalizing d with
  | nil =>
    exact ⟨{}, refl_of (Silent ctx.slug) d, settles_empty (not_fails_ok [])⟩
  | cons leg rest ih =>
    obtain ⟨t, leaves, settles⟩ := (placesLeg ctx leg d).settles
    rcases placeEach_cons ctx entryId leg rest d with
      ⟨filed, d₁, ran, later, placed⟩ | ⟨e, d₁, d₂, ran, foreseen, told, later, placed⟩
        | ⟨e, d₁, ran, unforeseen, later, placed⟩
      <;> rw [ran] at leaves settles <;> rw [placed]
    · rw [escalations_cons_of_some rest later]
      obtain ⟨u, leaves', settles'⟩ := ih d₁
      refine ⟨t ++ u, leaves.trans leaves', settles.append settles' ?_⟩
      exact fails_map.trans (or_iff_right (not_faults_ok filed)).symm
    · rw [escalations_cons_of_some rest later]
      have silent : Silent ctx.slug d₁ d₂ := told ▸ keeps_notify ctx.slug rfl d₁
      obtain ⟨u, leaves', settles'⟩ := ih d₂
      refine ⟨t ++ u, (leaves.done silent).trans leaves', settles.append settles' ?_⟩
      exact (or_iff_right (not_faults_of_isForeseen foreseen)).symm
    · rw [escalations_cons_of_none rest later]
      have faults : Faults (.error e) := ⟨e, rfl, unforeseen⟩
      exact ⟨t, leaves, settles.settled, settles.reported, settles.lost,
        iff_of_true ⟨e, rfl⟩ (settles.broken.mp faults)⟩

/-- **Protection settles its orders**, and it is broken off exactly by a mute answer: linking
two legs settles nothing more, and never breaks off. -/
theorem settles_protect (ctx : Context) (r : OrderRequest) (entry : Order) (d : Desk) :
    ∃ t, Leaves ctx.slug d (protect ctx r entry d).2 t
      ∧ Settles (protectionEscalations ctx r entry d) (Fails (protect ctx r entry d).1) t := by
  have sides := side_of_protectionLegs r entry.quantity d
  have silent := keeps_protectionLegs ctx.slug r entry.quantity d
  unfold protect protectionEscalations
  rw [Run.lift_bind]
  generalize (protectionLegs r entry.quantity d).1 = legs at sides
  generalize (protectionLegs r entry.quantity d).2 = d₁ at silent
  obtain ⟨t, leaves, trail⟩ := leaves_placeEach ctx entry.id sides d₁
  obtain ⟨t', leaves', settles⟩ := settles_placeEach ctx entry.id legs d₁
  obtain rfl := leaves.unique leaves'
  rw [Run.bind_apply]
  rcases ended : placeEach ctx entry.id legs d₁ with ⟨e | placed, d₂⟩ <;>
    rw [ended] at leaves trail settles
  · exact ⟨t, silent.then leaves, settles.settled, settles.reported, settles.lost,
      iff_of_true ⟨e, rfl⟩ (settles.broken.mp ⟨e, rfl⟩)⟩
  · obtain ⟨rows, left, same, -⟩ :=
      leaves_linkProtection entry.id (silent.then leaves) (trail.rows placed rfl) trail.isAbout
    refine ⟨_, left, ?_, settles.reported, settles.lost,
      iff_of_false (not_fails_ok ()) (mt settles.broken.mpr (not_fails_ok placed))⟩
    show ((rows.map (·.venueOrderId) : List String) : Multiset String) + _ + _ = _
    rw [same]
    exact settles.settled

/-- What does not ask for protection has no legs. -/
theorem protectionLegs_of_bare {r : OrderRequest} (bare : asksForProtection r ≠ true)
    (quantity : Float) (d : Desk) : protectionLegs r quantity d = ([], d) := by
  unfold asksForProtection at bare
  unfold protectionLegs protectionAt
  cases stop : OrderRequest.stated r.stopLossPrice with
  | some x => exact absurd (by rw [stop]; rfl) bare
  | none =>
    cases profit : OrderRequest.stated r.takeProfitPrice with
    | some y => exact absurd (by rw [stop, profit]; rfl) bare
    | none => rfl

/-! ## The entry -/

/-- **An entry stands**: the order that was placed by hand has passed its checks, the venue
has acknowledged it, and it is stored. -/
structure EntryStands (r : OrderRequest) (user : String) (d : Desk) (ctx : Context)
    (filed : Filed) (d₁ : Desk) : Prop where
  complete : r.ensureComplete = .ok ()
  supported : OrderRequest.ensureSupported r.venue r.type = .ok ()
  placed : ∃ d₀, runFloor (Floor.context d.reference r user) d = (.ok ctx, d₀)
    ∧ placeSingle ctx r true d₀ = (.ok filed, d₁)

section

variable {r : OrderRequest} {user : String} {filed : Filed} {d₁ : Desk}

/-- The row of an entry is in the store, and its ticket is that of the row. -/
theorem EntryStands.stored (h : EntryStands r user d ctx filed d₁) :
    filed.order ∈ d₁.store.ledger.rows ∧ filed.ticket.IsOf filed.order := by
  obtain ⟨d₀, -, placed⟩ := h.placed
  have ends := placesOne_placeSingle ctx r true d₀
  rw [placed] at ends
  cases ends with
  | placed read is leaves =>
    obtain ⟨rfl, ticket, -⟩ := is
    refine ⟨?_, ticket⟩
    rw [leaves.wrote.rows]
    exact List.mem_append_right _ (List.mem_singleton.mpr rfl)

/-- What is done after a check that succeeds. -/
theorem check_bind {α β : Type} (a : α) (f : α → DeskM β) (d : Desk) :
    (check (.ok a) >>= f) d = f a d := by
  rw [Run.bind_apply]
  rfl

/-- **After the entry stands** only its protection is left to do. -/
theorem placeManualOrder_of_stands (single : r.type ≠ .oco)
    (h : EntryStands r user d ctx filed d₁) :
    placeManualOrder r user d = if asksForProtection r then
        ((protect ctx r filed.order d₁).1.map fun _ => filed.ticket,
          (protect ctx r filed.order d₁).2)
      else (.ok filed.ticket, d₁) := by
  obtain ⟨d₀, found, placed⟩ := h.placed
  have noPair : (r.type == .oco) = false := beq_eq_false_iff_ne.mpr single
  have protecting : placeManualOrder r user d = placeProtected ctx r d₀ := by
    unfold placeManualOrder
    rw [h.complete, check_bind, h.supported, check_bind, Run.get_bind, Run.bind_apply, found]
    dsimp only
    rw [noPair]
    rfl
  rw [protecting]
  unfold placeProtected
  rw [Run.bind_apply, placed]
  dsimp only
  by_cases asks : asksForProtection r = true
  · rw [if_pos asks, if_pos asks]
    exact Run.map_apply _ (fun _ => filed.ticket) d₁
  · rw [if_neg asks, if_neg asks]
    rfl

/-- A row that was there stays as it is when others are written after it. -/
theorem Leaves.find?_of_mem {o : Order} (h : Leaves slug d d' t)
    (mem : o ∈ d.store.ledger.rows) : d'.store.ledger.find? o.id = some o := by
  refine Ledger.find?_of_mem ?_
  rw [h.wrote.rows]
  exact List.mem_append_left _ mem

/-- **What is known in every case** after protection was attached to an entry, or was not, with
these escalations. -/
structure Attaches (xs : List Escalation) (filed : Filed) (res : Except Failure Ticket)
    (d' : Desk) (t : Trail) : Prop where
  /-- The row of the entry is as it was, and its ticket is the one to be given. -/
  untouched : d'.store.ledger.find? filed.order.id = some filed.order
  ticket : filed.ticket.IsOf filed.order
  /-- The caller is given the entry unless an answer was mute. -/
  returned : res = .ok filed.ticket ↔ ∀ x ∈ t.accepted, ¬ Mute x
  /-- The acknowledged orders whose statuses can be read are stored, reported or reported as
  lost, each once. -/
  settled : t.settled = (t.accepted.filterMap recordId? : List String)
  /-- Those are reported whose escalation finds a store that takes the incident. -/
  reported : t.reported = Escalation.reported xs
  /-- Those are lost whose escalation finds a store that does not. -/
  lost : t.lost = Escalation.lost xs

/-- **Protection was best effort**: the caller is given the entry, its row is as it was, and
every protective order that was acknowledged is stored or named by an incident. -/
structure BestEffort (filed : Filed) (res : Except Failure Ticket) (d' : Desk) (t : Trail) :
    Prop where
  returned : res = .ok filed.ticket
  untouched : d'.store.ledger.find? filed.order.id = some filed.order
  kept : (t.rows.map (·.venueOrderId) : Multiset String) + t.reported
    = (t.accepted.filterMap readId? : List String)

/-- **The protection of an entry that stands** is attached as far as it goes. -/
theorem attaches_of_stands (single : r.type ≠ .oco) (h : EntryStands r user d ctx filed d₁) :
    ∃ t, Leaves ctx.slug d₁ (placeManualOrder r user d).2 t
      ∧ Attaches (protectionEscalations ctx r filed.order d₁) filed
          (placeManualOrder r user d).1 (placeManualOrder r user d).2 t := by
  obtain ⟨stored, ticket⟩ := h.stored
  rw [placeManualOrder_of_stands single h]
  by_cases asks : asksForProtection r = true
  · rw [if_pos asks]
    obtain ⟨t, leaves, settles⟩ := settles_protect ctx r filed.order d₁
    refine ⟨t, leaves, leaves.find?_of_mem stored, ticket, ?_, settles.settled,
      settles.reported, settles.lost⟩
    have unmuted : (∀ x ∈ t.accepted, ¬ Mute x) ↔ ¬ Fails (protect ctx r filed.order d₁).1 := by
      rw [settles.broken, not_exists]
      exact forall_congr' fun x => not_and.symm
    rw [unmuted]
    cases (protect ctx r filed.order d₁).1 with
    | ok _ => exact iff_of_true rfl (not_fails_ok _)
    | error e =>
      refine iff_of_false ?_ (not_not_intro ⟨e, rfl⟩)
      intro wrong
      cases wrong
  · rw [if_neg asks]
    have leaves := refl_of (Silent ctx.slug) d₁
    have calm : protectionEscalations ctx r filed.order d₁ = [] := by
      unfold protectionEscalations
      rw [protectionLegs_of_bare asks]
      rfl
    rw [calm]
    exact ⟨{}, leaves, Leaves.find?_of_mem leaves stored, ticket,
      iff_of_true rfl (fun _ wrong => nomatch wrong), rfl, rfl, rfl⟩

/-- **Protection is best effort exactly when no answer was mute and every incident is taken.** -/
theorem Attaches.bestEffort_iff {xs : List Escalation} {res : Except Failure Ticket}
    (h : Attaches xs filed res d' t) :
    BestEffort filed res d' t
      ↔ (∀ x ∈ t.accepted, ¬ Mute x) ∧ ∀ x ∈ xs, x.isTaken = true := by
  rw [← Escalation.lost_eq_nil_iff, ← h.lost]
  have known : (∀ x ∈ t.accepted, ¬ Mute x) →
      t.settled = (t.accepted.filterMap readId? : List String) := by
    intro unmuted
    rw [h.settled, List.filterMap_congr fun x mem => recordId?_of_not_mute (unmuted x mem)]
  constructor
  · intro best
    have unmuted := h.returned.mp best.returned
    have all := known unmuted
    unfold Trail.settled at all
    rw [← best.kept, add_eq_left] at all
    exact ⟨unmuted, (Multiset.coe_eq_zero _).mp all⟩
  · rintro ⟨unmuted, none⟩
    refine ⟨h.returned.mpr unmuted, h.untouched, ?_⟩
    rw [← known unmuted]
    unfold Trail.settled
    rw [none]
    exact (add_zero _).symm

/-- **When protection is best effort.** Once the entry stands, its row is never touched, and
the protective orders whose statuses can be read are stored, reported or reported as lost, and
they are lost only where the writing of their own incident fails. The caller is given the entry,
and every acknowledged order is stored or reported, exactly when no acknowledged status was mute
and every escalation finds a store that takes its incident. -/
theorem protection_is_best_effort_iff (single : r.type ≠ .oco)
    (h : EntryStands r user d ctx filed d₁) :
    ∃ t, Leaves ctx.slug d₁ (placeManualOrder r user d).2 t
      ∧ Attaches (protectionEscalations ctx r filed.order d₁) filed
          (placeManualOrder r user d).1 (placeManualOrder r user d).2 t
      ∧ (BestEffort filed (placeManualOrder r user d).1 (placeManualOrder r user d).2 t
        ↔ (∀ x ∈ t.accepted, ¬ Mute x)
          ∧ ∀ x ∈ protectionEscalations ctx r filed.order d₁, x.isTaken = true) := by
  obtain ⟨t, leaves, attaches⟩ := attaches_of_stands single h
  exact ⟨t, leaves, attaches, attaches.bestEffort_iff⟩

/-- An entry comes to stand. -/
def comesToStand (r : OrderRequest) (user : String) (d : Desk) : Bool :=
  match runFloor (Floor.context d.reference r user) d with
  | (.ok ctx, d₀) => (placeSingle ctx r true d₀).1.isOk
  | (.error _, _) => false

theorem stands_of_comesToStand (complete : r.ensureComplete = .ok ())
    (supported : OrderRequest.ensureSupported r.venue r.type = .ok ())
    (h : comesToStand r user d = true) :
    ∃ ctx filed d₁, EntryStands r user d ctx filed d₁ := by
  unfold comesToStand at h
  rcases found : runFloor (Floor.context d.reference r user) d with ⟨e | ctx, d₀⟩ <;>
    rw [found] at h
  · cases h
  · dsimp only at h
    rcases placed : placeSingle ctx r true d₀ with ⟨e | filed, d₁⟩ <;> rw [placed] at h
    · cases h
    · exact ⟨ctx, filed, d₁, complete, supported, d₀, found, placed⟩

end

open Placement (protectedCoin numberedStatus)

/-- One coin at market and its stop are both stored. -/
theorem protection_is_best_effort_protectedCoin :
    ∃ ctx filed d₁, protectedCoin.type ≠ .oco
      ∧ EntryStands protectedCoin "u1" (small [] {}) ctx filed d₁
      ∧ (placeManualOrder protectedCoin "u1" (small [] {})).2.store.ledger.rows.length = 2
      ∧ ∃ t, Leaves ctx.slug d₁ (placeManualOrder protectedCoin "u1" (small [] {})).2 t
        ∧ Attaches (protectionEscalations ctx protectedCoin filed.order d₁) filed
            (placeManualOrder protectedCoin "u1" (small [] {})).1
            (placeManualOrder protectedCoin "u1" (small [] {})).2 t
        ∧ (BestEffort filed (placeManualOrder protectedCoin "u1" (small [] {})).1
              (placeManualOrder protectedCoin "u1" (small [] {})).2 t
            ↔ (∀ x ∈ t.accepted, ¬ Mute x)
              ∧ ∀ x ∈ protectionEscalations ctx protectedCoin filed.order d₁,
                x.isTaken = true) := by
  have single : protectedCoin.type ≠ .oco := by decide
  have comes : comesToStand protectedCoin "u1" (small [] {}) = true := by decide +kernel
  obtain ⟨ctx, filed, d₁, stands⟩ := stands_of_comesToStand rfl rfl comes
  exact ⟨ctx, filed, d₁, single, stands, by decide +kernel,
    protection_is_best_effort_iff single stands⟩

/-- A desk whose venue answers an entry plainly, and its protection with a status that is a
number. -/
def muteDesk : Desk := small [.accepted (.object []), numberedStatus] {}

/-- **A mute answer to its protection fails an entry.** The entry stands and is stored, the
venue has accepted both orders, and the caller is told of a fault. Of the protective order
there is neither a row nor an incident. -/
theorem entry_fails_by_its_protection :
    ∃ ctx filed d₁, EntryStands protectedCoin "u1" muteDesk ctx filed d₁
      ∧ (placeManualOrder protectedCoin "u1" muteDesk).1 ≠ .ok filed.ticket
      ∧ ((placeManualOrder protectedCoin "u1" muteDesk).2.floor.accepted "binance").length = 2
      ∧ (placeManualOrder protectedCoin "u1" muteDesk).2.store.ledger.rows.length = 1
      ∧ (placeManualOrder protectedCoin "u1" muteDesk).2.store.incidents.length = 0 := by
  have comes : comesToStand protectedCoin "u1" muteDesk = true := by decide +kernel
  obtain ⟨ctx, filed, d₁, stands⟩ := stands_of_comesToStand rfl rfl comes
  have failed : (placeManualOrder protectedCoin "u1" muteDesk).1.isOk = false := by
    decide +kernel
  refine ⟨ctx, filed, d₁, stands, fun returned => ?_, by decide +kernel, by decide +kernel,
    by decide +kernel⟩
  cases failed.symm.trans (congrArg Except.isOk returned)

end Desk

end OrderDesk

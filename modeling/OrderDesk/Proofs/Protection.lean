import OrderDesk.Proofs.Accounting

/-!
# What the protection of an entry leaves behind

Protective legs are placed one after the other, each in a transaction of its own, and a leg
that fails is left out. In one respect they differ from every other leg: their ticket is
made up before the transaction, so that an answer whose status is no text ends the
operation outside of the part that escalates. A protective order is therefore accounted for
when its answer can be read *and* its status as well (`recordId?`).

Where a leg is escalated is a function of the desk at which it is placed (`escalation?`), and so
is the desk at which the legs after it are placed (`afterLeg?`). So all escalations of a
protection are known before they happen (`escalations`), and of each whether its incident will be
taken.

When two legs were placed they are linked to each other afterwards, both or neither.
-/

namespace OrderDesk

/-- The identifier that the answer to a protective order gives, when it and the status in
it can be read. -/
def recordId? (x : Submission × Payload) : Option String :=
  ((x.1.readAck x.2).toOption.filter fun ack => (Leg.statusOf ack.status).isOk).map (·.id)

/-- A venue that gave no acknowledgement gave no identifier. -/
theorem Submission.NoAck.recordIds {order : Submission}
    {accepted : List (Submission × Payload)} (h : order.NoAck accepted) :
    accepted.filterMap recordId? = [] := by
  cases h with
  | refused => rfl
  | unread read =>
    refine List.filterMap_cons_none ?_
    unfold recordId?
    rw [read]
    rfl

/-- The identifier of an acknowledged order whose status can be read. -/
theorem recordId?_of_read {order : Submission} {answer : Payload} {ack : Ack}
    {status : OrderStatus} (h : order.readAck answer = .ok ack)
    (word : Leg.statusOf ack.status = .ok status) :
    recordId? (order, answer) = some ack.id := by
  unfold recordId?
  rw [h]
  show ((some ack).filter _).map _ = _
  rw [Option.filter_some, word]
  rfl

/-- An acknowledged order whose status cannot be read. -/
theorem recordId?_of_unread {order : Submission} {answer : Payload} {ack : Ack} {e : Fault}
    (h : order.readAck answer = .ok ack) (word : Leg.statusOf ack.status = .error e) :
    recordId? (order, answer) = none := by
  unfold recordId?
  rw [h]
  show ((some ack).filter _).map _ = _
  rw [Option.filter_some, word]
  rfl

namespace Leg

variable {ctx : Context} {leg : Leg} {ack : Ack} {marks : Leg.Marks} {s u : Store}

/-- A leg that can be recorded has a status that can be read. -/
theorem status_of_recordNow {t : Ticket} (h : recordNow ctx leg ack marks s = (.ok t, u)) :
    ∃ status, statusOf ack.status = .ok status := by
  obtain ⟨ticket, s₁, recorded, -⟩ := Run.of_bind_ok h
  obtain ⟨status, word, -⟩ := Run.ok_of_bind (congrArg Prod.fst recorded)
  exact ⟨status, word⟩

/-- A leg that cannot be recorded has a status that cannot be read. -/
theorem status_of_recordNow_error {e : Fault}
    (h : recordNow ctx leg ack marks s = (.error e, u)) : statusOf ack.status = .error e := by
  rcases Run.of_bind h with ⟨e', failed, same⟩ | ⟨ticket, s₁, -, h⟩
  · cases same
    have unmade : record ctx leg ack marks = .error e := congrArg Prod.fst failed
    cases word : statusOf ack.status with
    | error e' =>
      unfold record at unmade
      rw [word] at unmade
      cases unmade
      rfl
    | ok status =>
      unfold record at unmade
      rw [word] at unmade
      cases unmade
  · -- only the clock may be asked after that, and it answers
    rcases Run.of_bind h with ⟨e', failed, -⟩ | ⟨time, s₂, -, h⟩
    · cases known : ticket.transactTime <;> rw [known] at failed <;> cases failed
    · cases h

end Leg

namespace Desk

variable {ctx : Context} {d d' : Desk}

/-! ## Escalations -/

/-- **A divergence that is escalated**, and the desk at which this is done. -/
structure Escalation where
  divergence : Divergence
  desk : Desk

/-- **The store takes the incident** of an escalation, as it is then. -/
def Escalation.isTaken (x : Escalation) : Bool :=
  (Store.createIncident x.divergence.report x.desk.store).1.isOk

/-- A leg that was acknowledged is escalated when the store did not take its row. -/
def escalationAfter (ctx : Context) (leg : Leg) (ack : Ack) :
    Except Fault Filed × Desk → Option Escalation
  | (.ok _, _) => none
  | (.error e, d) =>
    some ⟨divergence ctx (protectionName leg) [ack.id] leg.quantity .null e, d⟩

/-- **Where a protective leg is escalated**: after the venue acknowledged it, its ticket was made
up, and the store did not take the row. -/
def escalation? (ctx : Context) (leg : Leg) (d : Desk) : Option Escalation :=
  match runFloor (Floor.submit ctx leg (protectionName leg)) d with
  | (.error _, _) => none
  | (.ok ack, d₁) =>
    match runStore (Leg.recordNow ctx leg ack { isManual := true }) d₁ with
    | (.error _, _) => none
    | (.ok ticket, d₂) =>
      escalationAfter ctx leg ack (tryStore (Store.transaction (Store.addOrder ticket)) d₂)

/-- The desk at which the legs after a leg are placed; none when they are not placed. -/
def afterLeg? (ctx : Context) (entryId : String) (leg : Leg) (d : Desk) : Option Desk :=
  match placeProtection ctx leg d with
  | (.ok _, d₁) => some d₁
  | (.error e, d₁) =>
    if e.isForeseen then
      some (notify (.protectionFailed leg.recordType entryId e.message) d₁).2
    else none

/-- **Where protective legs are escalated** that are placed one after the other. -/
def escalations (ctx : Context) (entryId : String) : List Leg → Desk → List Escalation
  | [], _ => []
  | leg :: rest, d =>
    (escalation? ctx leg d).toList ++
      match afterLeg? ctx entryId leg d with
      | some d₁ => escalations ctx entryId rest d₁
      | none => []

/-- Escalations go on with the legs after a leg, when these are placed. -/
theorem escalations_cons_of_some {entryId : String} {leg : Leg} (rest : List Leg)
    (later : afterLeg? ctx entryId leg d = some d') :
    escalations ctx entryId (leg :: rest) d
      = (escalation? ctx leg d).toList ++ escalations ctx entryId rest d' := by
  show (escalation? ctx leg d).toList ++ (match afterLeg? ctx entryId leg d with
    | some d₁ => escalations ctx entryId rest d₁
    | none => []) = _
  rw [later]

/-- They end with a leg at which the others break off. -/
theorem escalations_cons_of_none {entryId : String} {leg : Leg} (rest : List Leg)
    (later : afterLeg? ctx entryId leg d = none) :
    escalations ctx entryId (leg :: rest) d = (escalation? ctx leg d).toList := by
  show (escalation? ctx leg d).toList ++ (match afterLeg? ctx entryId leg d with
    | some d₁ => escalations ctx entryId rest d₁
    | none => []) = _
  rw [later, List.append_nil]

/-- **Where the protection of an entry is escalated.** -/
def protectionEscalations (ctx : Context) (r : OrderRequest) (entry : Order) (d : Desk) :
    List Escalation :=
  escalations ctx entry.id (protectionLegs r entry.quantity d).1
    (protectionLegs r entry.quantity d).2

/-! ## One leg -/

/-- **How the placement of a protective leg ends.** -/
inductive PlacesLeg (ctx : Context) (leg : Leg) (d : Desk) : Except Failure Filed → Desk → Prop
    where
  /-- The leg stands at the venue and in the store. -/
  | placed {order : Submission} {answer : Payload} {ack : Ack} {status : OrderStatus}
      {filed : Filed} {d' : Desk} (read : order.readAck answer = .ok ack)
      (word : Leg.statusOf ack.status = .ok status) (is : filed.order.IsFor ctx leg ack)
      (alone : filed.order.link = none) (calm : escalation? ctx leg d = none)
      (leaves : Leaves ctx.slug d d' { commands := [.submitted ctx.slug order],
                                       accepted := [(order, answer)],
                                       rows := [filed.order] }) :
      PlacesLeg ctx leg d (.ok filed) d'
  /-- The venue failed to place the leg, as far as the desk can tell. -/
  | failed {reason : String} {t : Trail} {d' : Desk} (unplaced : Unplaced ctx.slug t)
      (calm : escalation? ctx leg d = none) (leaves : Leaves ctx.slug d d' t) :
      PlacesLeg ctx leg d (.error (.venue (protectionName leg) reason)) d'
  /-- The leg stands at the venue, and its status cannot be read. -/
  | unrecorded {order : Submission} {answer : Payload} {ack : Ack} {fault : Fault} {d' : Desk}
      (read : order.readAck answer = .ok ack)
      (word : Leg.statusOf ack.status = .error fault) (calm : escalation? ctx leg d = none)
      (leaves : Leaves ctx.slug d d' { commands := [.submitted ctx.slug order],
                                       accepted := [(order, answer)] }) :
      PlacesLeg ctx leg d (.error (.fault fault)) d'
  /-- The leg stands at the venue and the store does not have it. -/
  | diverged {order : Submission} {answer : Payload} {ack : Ack} {status : OrderStatus}
      {x : Escalation} {t : Trail} {d' : Desk} (read : order.readAck answer = .ok ack)
      (word : Leg.statusOf ack.status = .ok status)
      (names : x.divergence.venueOrderIds = [ack.id])
      (escalated : escalation? ctx leg d = some x) (shown : x.divergence.Shown x.desk.store t)
      (leaves : Leaves ctx.slug d d' ({ commands := [.submitted ctx.slug order],
                                        accepted := [(order, answer)] } ++ t)) :
      PlacesLeg ctx leg d (.error (.unreconciled "place protective order" [ack.id]
        (some x.divergence.symbol) (some x.divergence.quantity))) d'

/-- **A protective leg** ends in one of the four ways. -/
theorem placesLeg (ctx : Context) (leg : Leg) (d : Desk) :
    PlacesLeg ctx leg d (placeProtection ctx leg d).1 (placeProtection ctx leg d).2 := by
  rcases submitted : runFloor (Floor.submit ctx leg (protectionName leg)) d with ⟨acked, d₁⟩
  unfold placeProtection
  rw [Run.bind_apply, submitted]
  rcases submit_cases submitted with
    ⟨reason, t, rfl, unplaced, leaves⟩ | ⟨order, answer, ack, rfl, read, stands⟩
  · exact .failed unplaced (by rw [escalation?, submitted]) leaves
  -- from here on the order stands, and a record that fails is not escalated
  dsimp only
  have silent : Silent ctx.slug d₁
      (runStore (Leg.recordNow ctx leg ack { isManual := true }) d₁).2 :=
    keeps_runStore Leg.keeps_recordNow d₁
  rw [Run.bind_apply]
  rcases made : runStore (Leg.recordNow ctx leg ack { isManual := true }) d₁ with ⟨_, d₂⟩
  rw [made] at silent
  have stands : Leaves ctx.slug d d₂ _ := stands.done silent
  obtain ⟨found, recorded, rfl, -⟩ := of_runStore made
  cases found with
  | error fault =>
    have calm : escalation? ctx leg d = none := by
      rw [escalation?, submitted]
      dsimp only
      rw [made]
      rfl
    exact .unrecorded read (Leg.status_of_recordNow_error recorded) calm stands
  | ok ticket =>
    obtain ⟨status, word⟩ := Leg.status_of_recordNow recorded
    obtain ⟨-, isFor, alone⟩ := Leg.of_recordNow recorded
    dsimp only [Except.mapError]
    rw [Run.lift_bind]
    rcases tried : tryStore (Store.transaction (Store.addOrder ticket)) d₂ with ⟨written, d₃⟩
    obtain ⟨wrote, only⟩ := of_tryStore tried
    have whether : escalation? ctx leg d = escalationAfter ctx leg ack (written, d₃) := by
      rw [escalation?, submitted]
      dsimp only
      rw [made]
      dsimp only [Except.mapError]
      rw [tried]
    rcases Store.transaction_cases (Store.spares_addOrder ticket) wrote with
      ⟨fault, rfl, idle⟩ | ⟨filed, begun, middle, rfl, before, body, after⟩
    · have kept : Silent ctx.slug d₂ d₃ := leaves_of_store only idle.wrote
      have stood := stands.done kept
      obtain ⟨t, shown, left⟩ := leaves_escalate _ d₃
      exact .diverged read word rfl whether shown (stood.trans left)
    · obtain ⟨wrote, isMade, -⟩ := Store.of_addOrder body
      have filing : Leaves ctx.slug d₂ d₃ { rows := [filed.order] } :=
        leaves_of_store only ((before.wrote.trans wrote).trans after.wrote)
      exact .placed read word (isMade.isFor isFor) (isMade.link.symm.trans alone) whether
        (stands.trans filing)

/-- **What a protective leg leaves behind.** Its row is there when it was placed, and only
then. -/
structure LegTrail (ctx : Context) (side : Side) (r : Except Failure Filed) (t : Trail) :
    Prop where
  /-- It accounts for the leg when its answer and the status in it could be read. -/
  accounts : t.Accounts recordId?
  /-- The row is that of the placed leg. -/
  rows : t.rows = r.toOption.toList.map (·.order)
  /-- The row is on the side of the leg, and not linked. -/
  isAbout : ∀ row ∈ t.rows, row.IsAbout ctx side ∧ row.link = none

/-- A leg that was not placed. -/
theorem LegTrail.ofError {side : Side} {e : Failure} {t : Trail}
    (accounts : t.Accounts recordId?) (none : t.rows = []) :
    LegTrail ctx side (.error e) t where
  accounts := accounts
  rows := none
  isAbout := by
    intro row mem
    rw [none] at mem
    cases mem

/-- **Whatever happens to a leg**, its trail is that of a leg. -/
theorem PlacesLeg.trail {leg : Leg} {res : Except Failure Filed}
    (h : PlacesLeg ctx leg d res d') :
    ∃ t, Leaves ctx.slug d d' t ∧ LegTrail ctx leg.side res t := by
  cases h with
  | @placed order answer ack _ filed _ read word is alone calm leaves =>
    refine ⟨_, leaves, ?_, rfl, fun row mem => ?_⟩
    · unfold Trail.Accounts
      show _ = (((order, answer) :: []).filterMap recordId? : Multiset String)
      rw [List.filterMap_cons_some (recordId?_of_read read word), ← is.venueOrderId]
      rfl
    · obtain rfl := List.mem_singleton.mp mem
      exact ⟨is.isAbout, alone⟩
  | failed unplaced calm leaves =>
    refine ⟨_, leaves, .ofError
      (Trail.accounts_of_unplaced Submission.NoAck.recordIds unplaced) ?_⟩
    cases unplaced <;> rfl
  | unrecorded read word calm leaves =>
    refine ⟨_, leaves, .ofError ?_ rfl⟩
    unfold Trail.Accounts
    rw [List.filterMap_cons_none (recordId?_of_unread read word)]
    rfl
  | diverged read word names escalated shown leaves =>
    refine ⟨_, leaves, .ofError (Trail.accounts_of_shown shown rfl ?_) ?_⟩
    · rw [List.filterMap_cons_some (recordId?_of_read read word), names]
      rfl
    · cases shown <;> rfl

/-! ## All legs -/

/-- **What several protective legs leave behind.** -/
structure LegsTrail (ctx : Context) (side : Side) (r : Except Failure (List Filed))
    (t : Trail) : Prop where
  /-- It accounts for the legs whose answers and statuses could be read. -/
  accounts : t.Accounts recordId?
  /-- The rows are those of the placed legs. -/
  rows : ∀ placed, r = .ok placed → t.rows = placed.map (·.order)
  /-- The rows are on the side of the legs, and not linked. -/
  isAbout : ∀ row ∈ t.rows, row.IsAbout ctx side ∧ row.link = none

/-- One leg before others. -/
theorem LegTrail.append {side : Side} {r : Except Failure Filed}
    {r' r'' : Except Failure (List Filed)} {t u : Trail} (ht : LegTrail ctx side r t)
    (hu : LegsTrail ctx side r' u)
    (joined : ∀ placed, r'' = .ok placed →
      ∃ rest, r' = .ok rest ∧ placed.map (·.order) = t.rows ++ rest.map (·.order)) :
    LegsTrail ctx side r'' (t ++ u) where
  accounts := ht.accounts.append hu.accounts
  rows := by
    intro placed isOk
    obtain ⟨rest, restOk, all⟩ := joined placed isOk
    rw [all, ← hu.rows rest restOk]
    rfl
  isAbout := by
    intro row mem
    rcases List.mem_append.mp mem with first | later
    · exact ht.isAbout row first
    · exact hu.isAbout row later

/-- A placed leg before others. -/
theorem LegTrail.cons {side : Side} {filed : Filed} {r : Except Failure (List Filed)}
    {t u : Trail} (ht : LegTrail ctx side (.ok filed) t) (hu : LegsTrail ctx side r u) :
    LegsTrail ctx side (r.map (filed :: ·)) (t ++ u) := by
  refine ht.append hu fun placed isOk => ?_
  cases r with
  | error e => cases isOk
  | ok rest =>
    cases isOk
    refine ⟨rest, rfl, ?_⟩
    rw [ht.rows]
    rfl

/-- A leg that is left out before others. -/
theorem LegTrail.skip {side : Side} {e : Failure} {r : Except Failure (List Filed)}
    {t u : Trail} (ht : LegTrail ctx side (.error e) t) (hu : LegsTrail ctx side r u) :
    LegsTrail ctx side r (t ++ u) := by
  have none : t.rows = [] := ht.rows
  refine ht.append hu fun placed isOk => ⟨placed, isOk, ?_⟩
  rw [none, List.nil_append]

/-- A leg at which the others break off. -/
theorem LegTrail.stop {side : Side} {e e' : Failure} {t : Trail}
    (h : LegTrail ctx side (.error e) t) : LegsTrail ctx side (.error e') t where
  accounts := h.accounts
  rows := by
    intro placed wrong
    cases wrong
  isAbout := h.isAbout

/-- The outcome of an attempt is handed on. -/
theorem attempt_bind {α β : Type} (x : DeskM α) (f : Except Failure α → DeskM β) (d : Desk) :
    (attempt x >>= f) d = f (x d).1 (x d).2 :=
  Run.lift_bind x.run f d

/-- **A leg before others**: when it is placed its row comes before theirs, when its failure is
foreseen it is left out, and when it is not, they break off. -/
theorem placeEach_cons (ctx : Context) (entryId : String) (leg : Leg) (rest : List Leg)
    (d : Desk) :
    (∃ filed d₁, placeProtection ctx leg d = (.ok filed, d₁)
      ∧ afterLeg? ctx entryId leg d = some d₁
      ∧ placeEach ctx entryId (leg :: rest) d
        = ((placeEach ctx entryId rest d₁).1.map (filed :: ·), (placeEach ctx entryId rest d₁).2))
    ∨ (∃ e d₁ d₂, placeProtection ctx leg d = (.error e, d₁) ∧ e.isForeseen = true
      ∧ d₂ = (notify (.protectionFailed leg.recordType entryId e.message) d₁).2
      ∧ afterLeg? ctx entryId leg d = some d₂
      ∧ placeEach ctx entryId (leg :: rest) d = placeEach ctx entryId rest d₂)
    ∨ ∃ e d₁, placeProtection ctx leg d = (.error e, d₁) ∧ e.isForeseen = false
      ∧ afterLeg? ctx entryId leg d = none
      ∧ placeEach ctx entryId (leg :: rest) d = (.error e, d₁) := by
  have unfolds : placeEach ctx entryId (leg :: rest) d = _ :=
    attempt_bind (placeProtection ctx leg) _ d
  rw [afterLeg?]
  rcases ran : placeProtection ctx leg d with ⟨e | filed, d₁⟩ <;> rw [ran] at unfolds
  · by_cases foreseen : e.isForeseen = true
    · refine .inr (.inl ⟨e, d₁, _, rfl, foreseen, rfl, if_pos foreseen, unfolds.trans ?_⟩)
      dsimp only
      rw [if_pos foreseen, Run.lift_bind]
    · refine .inr (.inr ⟨e, d₁, rfl, Bool.eq_false_iff.mpr foreseen, if_neg foreseen,
        unfolds.trans ?_⟩)
      dsimp only
      rw [if_neg foreseen]
      rfl
  · exact .inl ⟨filed, d₁, rfl, rfl, unfolds.trans (Run.map_apply _ (filed :: ·) d₁)⟩

/-- **Protective legs one after the other** leave the trail of their legs, also when they
break off. -/
theorem leaves_placeEach (ctx : Context) (entryId : String) {side : Side} {legs : List Leg}
    (sides : ∀ leg ∈ legs, leg.side = side) (d : Desk) :
    ∃ t, Leaves ctx.slug d (placeEach ctx entryId legs d).2 t
      ∧ LegsTrail ctx side (placeEach ctx entryId legs d).1 t := by
  -- on the legs, for every desk: each leg begins where the one before has ended
  induction legs generalizing d with
  | nil =>
    refine ⟨{}, refl_of (Silent ctx.slug) d, Trail.accounts_empty, ?_, ?_⟩
    · intro placed isOk
      cases isOk
      rfl
    · intro row mem
      cases mem
  | cons leg rest ih =>
    have later : ∀ leg ∈ rest, leg.side = side := fun l mem =>
      sides l (List.mem_cons_of_mem _ mem)
    obtain ⟨t, leaves, trail⟩ := (placesLeg ctx leg d).trail
    rw [sides leg (List.mem_cons_self ..)] at trail
    rcases placeEach_cons ctx entryId leg rest d with
      ⟨filed, d₁, ran, -, placed⟩ | ⟨e, d₁, d₂, ran, -, told, -, placed⟩
        | ⟨e, d₁, ran, -, -, placed⟩ <;>
      rw [ran] at leaves trail <;> rw [placed]
    · obtain ⟨u, leaves', trail'⟩ := ih later d₁
      exact ⟨t ++ u, leaves.trans leaves', trail.cons trail'⟩
    · have silent : Silent ctx.slug d₁ d₂ := told ▸ keeps_notify ctx.slug rfl d₁
      obtain ⟨u, leaves', trail'⟩ := ih later d₂
      exact ⟨t ++ u, (leaves.done silent).trans leaves', trail.skip trail'⟩
    · exact ⟨t, leaves, trail.stop⟩

/-! ## Linking two legs -/

/-- **How the linking of the two rows that were written last ends**: both are linked, or
neither. -/
theorem linkBoth_cases {x y : Order} {old : List Order} {s u : Store} {r : Except Fault Unit}
    (h : Store.transaction (linkBoth x.id y.id) s = (r, u))
    (rows : s.ledger.rows = old ++ [x, y]) :
    (∃ e, r = .error e ∧ Store.Idles s u)
    ∨ ∃ time time', r = .ok ()
        ∧ u.ledger.rows = old ++ [Store.withLink y.id time x, Store.withLink x.id time' y]
        ∧ u.incidents = s.incidents ∧ Store.Spares s u := by
  have spares : Keeps Store.Spares (linkBoth x.id y.id).run :=
    .seq (Store.spares_linkTo _ _) fun _ => .seq (Store.spares_linkTo _ _) fun _ => .answer ()
  rcases Store.transaction_cases spares h with
    ⟨e, rfl, idle⟩ | ⟨_, begun, middle, rfl, before, body, after⟩
  · exact .inl ⟨e, rfl, idle⟩
  obtain ⟨time, s₁, forth, body⟩ := Run.of_bind_ok body
  obtain ⟨time', s₂, back, ended⟩ := Run.of_bind_ok body
  cases ended
  rcases Store.linkTo_cases forth with ⟨_, wrong, -⟩ | ⟨_, same, ledger, incidents, spares₁⟩
  · cases wrong
  cases same
  rcases Store.linkTo_cases back with ⟨_, wrong, -⟩ | ⟨_, same, ledger', incidents', spares₂⟩
  · cases wrong
  cases same
  rw [← before.ledger] at rows
  have first : s₁.ledger.rows = old ++ [Store.withLink y.id time x, y] := by
    rw [ledger, Ledger.rows_update_first rows]
    rfl
  refine .inr ⟨time, time', rfl, ?_, ?_, ?_⟩
  · rw [after.ledger, ledger', Ledger.rows_update_last first]
    rfl
  · rw [after.incidents, incidents', incidents, before.incidents]
  · exact trans_of _ (trans_of _ before.spares spares₁) (trans_of _ spares₂ after.spares)

/-- **The rows of a trail are written anew**, and nothing else is. -/
theorem Leaves.rewrite {slug : String} {d₀ : Desk} {t : Trail} {rows : List Order}
    (h : Leaves slug d₀ d t) (only : d' = { d with store := d'.store })
    (written : d'.store.ledger.rows = d₀.store.ledger.rows ++ rows)
    (incidents : d'.store.incidents = d.store.incidents)
    (spares : Store.Spares d.store d'.store) : Leaves slug d₀ d' { t with rows := rows } := by
  have floor : d'.floor = d.floor := by rw [only]
  have reference : d'.reference = d.reference := by rw [only]
  refine ⟨reference.trans h.reference, ?_, ?_, fun name other => ?_, ?_, written, ?_,
    trans_of _ h.wrote.spares spares⟩
  · rw [floor, h.commands]
  · rw [floor, h.accepted]
  · rw [floor, h.others name other]
  · rw [floor, h.alarms]
  · rw [incidents, h.wrote.incidents]

/-- **What linking does to the rows that were placed**, from one state of the store to the
next: two rows are linked to each other when the transaction succeeds, and otherwise the rows
are as they were. -/
inductive Linking (s u : Store) : List Order → List Order → Prop where
  /-- Two rows are linked to each other. -/
  | linked {a b : Order} {time time' : Stamp}
      (succeeds : Store.transaction (linkBoth a.id b.id) s = (.ok (), u)) :
      Linking s u [a, b] [Store.withLink b.id time a, Store.withLink a.id time' b]
  /-- Two rows were to be linked, and are not. -/
  | failed {a b : Order} {e : Fault}
      (fails : Store.transaction (linkBoth a.id b.id) s = (.error e, u)) :
      Linking s u [a, b] [a, b]
  /-- There are no two rows. -/
  | apart {rows : List Order} (other : rows.length ≠ 2) (same : u = s) : Linking s u rows rows

/-- **Linking what was placed** is all that happens to it afterwards. -/
theorem leaves_linking {d₀ : Desk} {t : Trail} (entryId : String) {placed : List Filed}
    (leaves : Leaves ctx.slug d₀ d t) (rows : t.rows = placed.map (·.order)) :
    ∃ rows, Leaves ctx.slug d₀ (linkProtection entryId placed d).2 { t with rows := rows }
      ∧ Linking d.store (linkProtection entryId placed d).2.store t.rows rows := by
  -- links are written only when exactly two legs were placed
  match placed, rows with
  | [], rows => exact ⟨t.rows, leaves, .apart (by simp [rows]) rfl⟩
  | [_], rows => exact ⟨t.rows, leaves, .apart (by simp [rows]) rfl⟩
  | _ :: _ :: _ :: _, rows => exact ⟨t.rows, leaves, .apart (by simp [rows]) rfl⟩
  | [stop, profit], rows =>
    have written : d.store.ledger.rows
        = d₀.store.ledger.rows ++ [stop.order, profit.order] := by
      rw [leaves.wrote.rows, rows]
      rfl
    have both : t.rows = [stop.order, profit.order] := rows
    rw [both]
    unfold linkProtection
    dsimp only
    rw [Run.bindM_apply]
    rcases tried : tryStore (Store.transaction (linkBoth stop.order.id profit.order.id)) d
      with ⟨r, d₁⟩
    obtain ⟨linked, only⟩ := of_tryStore tried
    rcases linkBoth_cases linked written with
      ⟨e, rfl, idle⟩ | ⟨time, time', rfl, relinked, incidents, spares⟩
    · have kept : Silent ctx.slug d d₁ := leaves_of_store only idle.wrote
      refine ⟨_, ?_, .failed linked⟩
      have told : Silent ctx.slug d₁ (notify (.linkFailed entryId e.message) d₁).2 :=
        keeps_notify ctx.slug rfl d₁
      rw [← both]
      exact (leaves.done kept).done told
    · exact ⟨_, leaves.rewrite only relinked incidents spares, .linked linked⟩

/-- Whatever linking does, it changes no identifier of a venue. -/
theorem Linking.venueOrderIds {s u : Store} {rows rows' : List Order}
    (h : Linking s u rows rows') : rows'.map (·.venueOrderId) = rows.map (·.venueOrderId) := by
  cases h <;> rfl

/-- **Linking what was placed** answers every link among the rows of the legs, and changes
no identifier of a venue and no owner. -/
theorem leaves_linkProtection {d₀ : Desk} {side : Side} {t : Trail} (entryId : String)
    {placed : List Filed} (leaves : Leaves ctx.slug d₀ d t)
    (rows : t.rows = placed.map (·.order))
    (isAbout : ∀ row ∈ t.rows, row.IsAbout ctx side ∧ row.link = none) :
    ∃ rows, Leaves ctx.slug d₀ (linkProtection entryId placed d).2 { t with rows := rows }
      ∧ rows.map (·.venueOrderId) = t.rows.map (·.venueOrderId) ∧ LinksAnswered rows
      ∧ ∀ row ∈ rows, row.user = ctx.user := by
  have asBefore : LinksAnswered t.rows ∧ ∀ row ∈ t.rows, row.user = ctx.user :=
    ⟨.of_unlinked fun row mem => (isAbout row mem).2, fun row mem => (isAbout row mem).1.user⟩
  obtain ⟨rows', left, linking⟩ := leaves_linking entryId leaves rows
  refine ⟨rows', left, linking.venueOrderIds, ?_⟩
  -- the two rows that are linked were the last ones, and so they are apart
  have written := leaves.wrote.rows
  generalize t.rows = old at linking written isAbout asBefore
  cases linking with
  | failed fails => exact asBefore
  | apart other same => exact asBefore
  | @linked a b time time' succeeds =>
    have isStop := (isAbout a (List.mem_cons_self ..)).1
    have isProfit := (isAbout b (List.mem_cons_of_mem _ (List.mem_singleton.mpr rfl))).1
    have same := isStop.sameBook isProfit
    have apart : a.id ≠ b.id := Ledger.ids_ne_of_rows written
    refine ⟨.pair apart rfl rfl
      ⟨same.user, same.venue, same.baseCoin, same.quoteCoin, same.side⟩, fun row mem => ?_⟩
    rcases List.mem_cons.mp mem with rfl | last
    · exact isStop.user
    · obtain rfl := List.mem_singleton.mp last
      exact isProfit.user

/-! ## The entry and its protection -/

/-- Making up protective legs leaves nothing behind. -/
theorem keeps_protectionLegs (slug : String) (r : OrderRequest) (quantity : Float) :
    Keeps (Silent slug) (protectionLegs r quantity) := by
  have one : ∀ (price : Option Float) (leg : Float → String → Leg),
      Keeps (Silent slug) (protectionAt price leg) := by
    intro price leg
    unfold protectionAt
    cases OrderRequest.stated price with
    | some p => exact .seqM keeps_newClientId fun _ => .answerM _
    | none => exact .answerM []
  exact .seqM (one _ _) fun _ => .seqM (one _ _) fun _ => .answerM _

/-- **The legs of a protection** are a stop at the stop-loss price and a limit order at the
take-profit price, as far as the two are stated. -/
theorem of_protectionLegs {r : OrderRequest} {quantity : Float} {leg : Leg}
    (h : leg ∈ (protectionLegs r quantity d).1) :
    (∃ x id, OrderRequest.stated r.stopLossPrice = some x
        ∧ leg = stopProtection r.side.opposite quantity x id)
    ∨ ∃ x id, OrderRequest.stated r.takeProfitPrice = some x
        ∧ leg = profitProtection r.side.opposite quantity x id := by
  have one : ∀ {price : Option Float} {make : Float → String → Leg} {d : Desk},
      leg ∈ (protectionAt price make d).1 →
      ∃ x id, OrderRequest.stated price = some x ∧ leg = make x id := by
    intro price make d mem
    unfold protectionAt at mem
    cases stated : OrderRequest.stated price with
    | some x =>
      rw [stated] at mem
      exact ⟨x, _, rfl, List.mem_singleton.mp mem⟩
    | none =>
      rw [stated] at mem
      cases mem
  unfold protectionLegs at h
  rw [Run.bindM_apply, Run.bindM_apply] at h
  exact (List.mem_append.mp h).imp one one

/-- Protective legs are on the opposite side. -/
theorem side_of_protectionLegs (r : OrderRequest) (quantity : Float) (d : Desk) :
    ∀ leg ∈ (protectionLegs r quantity d).1, leg.side = r.side.opposite := by
  intro leg mem
  rcases of_protectionLegs mem with ⟨x, id, -, rfl⟩ | ⟨x, id, -, rfl⟩ <;> rfl

/-- **Protection accounts for its legs** and answers their links, whatever fails, and all of
them belong to the owner of the entry. -/
theorem leaves_protect (ctx : Context) (r : OrderRequest) (entry : Order) (d : Desk) :
    ∃ t, Leaves ctx.slug d (protect ctx r entry d).2 t ∧ t.Accounts recordId?
      ∧ LinksAnswered t.rows ∧ ∀ row ∈ t.rows, row.user = ctx.user := by
  have sides := side_of_protectionLegs r entry.quantity d
  have silent := keeps_protectionLegs ctx.slug r entry.quantity d
  unfold protect
  rw [Run.lift_bind]
  generalize (protectionLegs r entry.quantity d).1 = legs at sides
  generalize (protectionLegs r entry.quantity d).2 = d₁ at silent
  obtain ⟨t, leaves, trail⟩ := leaves_placeEach ctx entry.id sides d₁
  rw [Run.bind_apply]
  rcases ended : placeEach ctx entry.id legs d₁ with ⟨e | placed, d₂⟩ <;>
    rw [ended] at leaves trail
  · exact ⟨t, silent.then leaves, trail.accounts,
      .of_unlinked fun row mem => (trail.isAbout row mem).2,
      fun row mem => (trail.isAbout row mem).1.user⟩
  · obtain ⟨rows, left, same, answered, owned⟩ :=
      leaves_linkProtection entry.id (silent.then leaves) (trail.rows placed rfl) trail.isAbout
    refine ⟨_, left, ?_, answered, owned⟩
    show ((rows.map (·.venueOrderId) : List String) : Multiset String) + _ + _ = _
    rw [same]
    exact trail.accounts

/-- **What an entry and its protection leave behind**, in two trails. -/
structure ProtectedTrail (t u : Trail) : Prop where
  /-- The entry is accounted for when its answer could be read. -/
  entry : t.Accounts readId?
  atMostOne : t.accepted.length ≤ 1
  noEntry : t.accepted = [] → u.accepted = []
  /-- The protection is accounted for when answers and statuses could be read. -/
  protection : u.Accounts recordId?
  links : LinksAnswered (t ++ u).rows

/-- **A manual order that is no pair**, with its protection. -/
theorem leaves_placeProtected (ctx : Context) (r : OrderRequest) (d : Desk) :
    ∃ t u, Leaves ctx.slug d (placeProtected ctx r d).2 (t ++ u) ∧ ProtectedTrail t u
      ∧ ∀ row ∈ (t ++ u).rows, row.user = ctx.user := by
  obtain ⟨t, leaves, trail⟩ := (placesOne_placeSingle ctx r true d).trail FiledOn.venueOrderId
  have unlinked : LinksAnswered t.rows := by
    refine .of_unlinked fun row mem => ?_
    obtain ⟨filed, ack, -, -, alone, -⟩ := trail.rows row mem
    exact alone
  have owned : ∀ row ∈ t.rows, row.user = ctx.user := by
    intro row mem
    obtain ⟨filed, ack, -, -, -, leg, -, is⟩ := trail.rows row mem
    exact is.user
  have alone : ∀ {d'}, Leaves ctx.slug d d' t →
      ∃ t u, Leaves ctx.slug d d' (t ++ u) ∧ ProtectedTrail t u
        ∧ ∀ row ∈ (t ++ u).rows, row.user = ctx.user := by
    intro d' left
    refine ⟨t, {}, by rwa [Trail.append_empty], ⟨trail.accounts, trail.atMostOne, fun _ => rfl,
      Trail.accounts_empty, ?_⟩, ?_⟩ <;> rwa [Trail.append_empty]
  unfold placeProtected
  rw [Run.bind_apply]
  rcases ran : placeSingle ctx r true d with ⟨e | filed, d₁⟩ <;> rw [ran] at leaves trail
  · exact alone leaves
  · by_cases asks : asksForProtection r = true
    · obtain ⟨u, left, protection, links, owned'⟩ := leaves_protect ctx r filed.order d₁
      refine ⟨t, u, ?_, ⟨trail.accounts, trail.atMostOne, fun none => ?_, protection,
        unlinked.append links⟩, fun row mem => (List.mem_append.mp mem).elim (owned row)
          (owned' row)⟩
      · show Leaves ctx.slug d ((if asksForProtection r = true then
            (protect ctx r filed.order >>= fun _ => pure filed.ticket)
          else pure filed.ticket : DeskM Ticket) d₁).2 (t ++ u)
        rw [if_pos asks, Run.map_apply]
        exact leaves.trans left
      · exact absurd none (trail.accepted filed rfl)
    · refine alone ?_
      show Leaves ctx.slug d ((if asksForProtection r = true then
          (protect ctx r filed.order >>= fun _ => pure filed.ticket)
        else pure filed.ticket : DeskM Ticket) d₁).2 t
      rw [if_neg asks]
      exact leaves

end Desk

end OrderDesk

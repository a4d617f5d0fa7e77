import OrderDesk.Proofs.Commands
import OrderDesk.Proofs.Preparation
import OrderDesk.Proofs.Writing

/-!
# What an operation of the desk leaves behind

An operation that places orders speaks to one venue and writes to the store. Its *trail* is
everything that it leaves in either: the commands it gave, the orders that the venue
accepted, the alarms it raised, and the rows and the incidents that it wrote. Trails are
put one after the other as the steps of an operation are, so that the trail of the whole is
read off the trails of its parts. A step that only asks, or that writes nothing, has an
empty trail.

A *divergence* is what the trail shows when the venue has an order that the store has not:
a critical alarm, and an incident or else a second alarm that there is none. Which of the two
it is depends on one thing only, whether the store takes the incident when it is written
(`Divergence.Shown`).
-/

namespace OrderDesk

/-- **What an operation leaves behind.** -/
structure Trail where
  /-- The commands that it gave. -/
  commands : List JournalEntry := []
  /-- The orders that the venue accepted, each with its answer. -/
  accepted : List (Submission × Payload) := []
  /-- The alarms that it raised. -/
  alarms : List Notice := []
  /-- The orders that it wrote. -/
  rows : List Order := []
  /-- The incidents that it wrote. -/
  incidents : List Incident := []

namespace Trail

/-- One trail after the other. -/
instance : Append Trail where
  append t u :=
    { commands := t.commands ++ u.commands
      accepted := t.accepted ++ u.accepted
      alarms := t.alarms ++ u.alarms
      rows := t.rows ++ u.rows
      incidents := t.incidents ++ u.incidents }

theorem append_empty (t : Trail) : t ++ {} = t := by
  show Trail.mk (t.commands ++ []) (t.accepted ++ []) (t.alarms ++ []) (t.rows ++ [])
    (t.incidents ++ []) = t
  simp only [List.append_nil]

end Trail

namespace Desk

/-- **An operation leaves a trail** at one venue and in the store, and nothing else. -/
structure Leaves (slug : String) (d d' : Desk) (t : Trail) : Prop where
  /-- What operations look things up in is as it was. -/
  reference : d'.reference = d.reference
  /-- The commands that were given. -/
  commands : d'.floor.commands = d.floor.commands ++ t.commands
  /-- The orders that the venue accepted. -/
  accepted : d'.floor.accepted slug = d.floor.accepted slug ++ t.accepted
  /-- The other venues accepted nothing. -/
  others : ∀ name, name ≠ slug → d'.floor.accepted name = d.floor.accepted name
  /-- The alarms that were raised. -/
  alarms : d'.floor.alarms = d.floor.alarms ++ t.alarms
  /-- What was written. -/
  wrote : Store.Wrote d.store d'.store t.rows t.incidents

/-- **An operation leaves nothing behind.** -/
def Silent (slug : String) (d d' : Desk) : Prop := Leaves slug d d' {}

section

variable {slug : String} {d d' d'' : Desk} {t u : Trail}

theorem Leaves.trans (h : Leaves slug d d' t) (k : Leaves slug d' d'' u) :
    Leaves slug d d'' (t ++ u) := by
  refine ⟨k.reference.trans h.reference, ?_, ?_, fun name other => ?_, ?_,
    h.wrote.trans k.wrote⟩
  · rw [k.commands, h.commands, List.append_assoc]
    rfl
  · rw [k.accepted, h.accepted, List.append_assoc]
    rfl
  · rw [k.others name other, h.others name other]
  · rw [k.alarms, h.alarms, List.append_assoc]
    rfl

/-- Nothing before a trail. -/
theorem Silent.then (h : Silent slug d d') (k : Leaves slug d' d'' t) :
    Leaves slug d d'' t :=
  Leaves.trans h k

/-- Nothing after a trail. -/
theorem Leaves.done (h : Leaves slug d d' t) (k : Silent slug d' d'') :
    Leaves slug d d'' t := by
  rw [← Trail.append_empty t]
  exact h.trans k

/-- What was said, when nothing was written. -/
theorem leaves_of_said {f : Floor} {c : List JournalEntry} {a : List (Submission × Payload)}
    (h : Floor.Said slug d.floor f c a) :
    Leaves slug d { d with floor := f } { commands := c, accepted := a } :=
  ⟨rfl, h.commands, h.accepted, h.others, by rw [h.alarms, List.append_nil],
    (refl_of Store.Idles d.store).wrote⟩

/-- What was written, when nothing was said. -/
theorem leaves_of_wrote {s : Store} {rows : List Order} {incidents : List Incident}
    (h : Store.Wrote d.store s rows incidents) :
    Leaves slug d { d with store := s } { rows := rows, incidents := incidents } :=
  ⟨rfl, (List.append_nil _).symm, (List.append_nil _).symm, fun _ _ => rfl,
    (List.append_nil _).symm, h⟩

end

instance (slug : String) : IsPreorder Desk (Silent slug) where
  refl d := leaves_of_wrote (refl_of Store.Idles d.store).wrote
  trans _ _ _ h k := h.then k

/-! ## Steps of the desk -/

section

variable {α : Type} {slug : String} {d d' : Desk}

/-- What an operation on the floor does to the desk. -/
theorem of_runFloor {x : FloorM α} {r : Except Failure α} (h : runFloor x d = (r, d')) :
    x d.floor = (r, d'.floor) ∧ d' = { d with floor := d'.floor } := by
  cases h
  exact ⟨rfl, rfl⟩

/-- What an operation on the floor comes to on the desk. -/
theorem runFloor_apply (x : FloorM α) (d : Desk) :
    runFloor x d = ((x d.floor).1, { d with floor := (x d.floor).2 }) := rfl

/-- What an operation on the store does to the desk. -/
theorem of_tryStore {x : StoreM α} {r : Except Fault α} (h : tryStore x d = (r, d')) :
    x d.store = (r, d'.store) ∧ d' = { d with store := d'.store } := by
  cases h
  exact ⟨rfl, rfl⟩

/-- What was said by an operation on the floor. -/
theorem leaves_of_floor {c : List JournalEntry} {a : List (Submission × Payload)}
    (only : d' = { d with floor := d'.floor }) (said : Floor.Said slug d.floor d'.floor c a) :
    Leaves slug d d' { commands := c, accepted := a } := by
  rw [only]
  exact leaves_of_said said

/-- What was written by an operation on the store. -/
theorem leaves_of_store {rows : List Order} {incidents : List Incident}
    (only : d' = { d with store := d'.store })
    (wrote : Store.Wrote d.store d'.store rows incidents) :
    Leaves slug d d' { rows := rows, incidents := incidents } := by
  rw [only]
  exact leaves_of_wrote wrote

/-- What an operation on the store whose fault is the failure does to the desk. -/
theorem of_runStore {x : StoreM α} {r : Except Failure α} (h : runStore x d = (r, d')) :
    ∃ r', x d.store = (r', d'.store) ∧ r = r'.mapError .fault
      ∧ d' = { d with store := d'.store } := by
  cases h
  exact ⟨(x d.store).1, rfl, rfl, rfl⟩

/-- What an operation on the store whose fault is the failure comes to on the desk. -/
theorem runStore_apply (x : StoreM α) (d : Desk) :
    runStore x d = ((x d.store).1.mapError .fault, { d with store := (x d.store).2 }) := rfl

/-- **The desk only asked** between two states. -/
structure Asks (d d' : Desk) : Prop where
  reads : d.floor.Reads d'.floor
  /-- Nothing changed but the floor. -/
  only : d' = { d with floor := d'.floor }

/-- What only asks leaves nothing behind. -/
theorem Asks.silent (h : Asks d d') (slug : String) : Silent slug d d' :=
  leaves_of_floor h.only (h.reads.said slug)

theorem Asks.store (h : Asks d d') : d'.store = d.store := by
  rw [h.only]

theorem keeps_asks {x : FloorM α} (h : Keeps Floor.Reads x.run) : Keeps Asks (runFloor x).run :=
  fun d => ⟨h d.floor, rfl⟩

/-- What only asks on the floor leaves nothing behind. -/
theorem keeps_runFloor {x : FloorM α} (h : Keeps Floor.Reads x.run) :
    Keeps (Silent slug) (runFloor x).run :=
  fun d => (keeps_asks h d).silent slug

/-- What writes nothing leaves nothing behind. -/
theorem keeps_runStore {x : StoreM α} (h : Keeps Store.Idles x.run) :
    Keeps (Silent slug) (runStore x).run :=
  fun d => leaves_of_wrote (h d.store).wrote

theorem keeps_notify (slug : String) {n : Notice} (h : n.isAlarm = false) :
    Keeps (Silent slug) (notify n) :=
  fun d => leaves_of_said ((Floor.reads_notify h d.floor).said slug)

theorem keeps_newClientId : Keeps (Silent slug) newClientId :=
  fun d => ⟨rfl, (List.append_nil _).symm, (List.append_nil _).symm, fun _ _ => rfl,
    (List.append_nil _).symm, (refl_of Store.Idles d.store).wrote⟩

/-- Identifiers for callers are made up without the store. -/
theorem store_clientIdOr (given : Option String) (d : Desk) :
    (clientIdOr given d).2.store = d.store := by
  unfold clientIdOr
  cases given.filter (!·.isEmpty) <;> rfl

/-- They are made up without the floor as well. -/
theorem floor_clientIdOr (given : Option String) (d : Desk) :
    (clientIdOr given d).2.floor = d.floor := by
  unfold clientIdOr
  cases given.filter (!·.isEmpty) <;> rfl

theorem keeps_clientIdOr (given : Option String) : Keeps (Silent slug) (clientIdOr given) := by
  unfold clientIdOr
  cases given.filter (!·.isEmpty) with
  | some id => exact .answerM id
  | none => exact keeps_newClientId

end

end Desk

/-! ## Divergences -/

/-- **How a divergence is shown** when it is escalated at a store: by an alarm and an incident
or, when the writing of the incident at this store fails, by a second alarm. -/
inductive Divergence.Shown (dv : Divergence) (s : Store) : Trail → Prop where
  /-- The incident was written. -/
  | recorded {i : Incident} (writes : (Store.createIncident dv.report s).1 = .ok i)
      (reports : i.Reports dv.report) :
      Shown dv s { alarms := [.unreconciled dv], incidents := [i] }
  /-- The incident was lost as well: its own writing failed, as the store planned to. -/
  | lost {e : Fault} (fails : (Store.createIncident dv.report s).1 = .error e)
      (planned : ¬ s.plan.SparesIncidents) :
      Shown dv s { alarms := [.unreconciled dv, .incidentLost dv.venueOrderIds] }

/-- No venue is told of a divergence. -/
theorem Divergence.Shown.commands {dv : Divergence} {s : Store} {t : Trail} (h : dv.Shown s t) :
    t.commands = [] := by
  cases h <;> rfl

namespace Desk

section

variable {slug : String} {d d' : Desk}

/-- An alarm is raised. -/
theorem leaves_alarm {n : Notice} (h : n.isAlarm = true) (d : Desk) :
    Leaves slug d (notify n d).2 { alarms := [n] } := by
  refine ⟨rfl, (List.append_nil _).symm, (List.append_nil _).symm, fun _ _ => rfl, ?_,
    (refl_of Store.Idles d.store).wrote⟩
  show (d.floor.notices ++ [n]).filter _ = d.floor.alarms ++ [n]
  rw [List.filter_append, List.filter_cons_of_pos h]
  rfl

/-- **An escalated divergence is shown.** -/
theorem leaves_escalate (dv : Divergence) (d : Desk) :
    ∃ t, dv.Shown d.store t ∧ Leaves slug d (escalate dv d).2 t := by
  -- the alarm comes first, whatever becomes of the incident
  have raised : Leaves slug d (notify (.unreconciled dv) d).2 _ := leaves_alarm rfl d
  generalize started : (notify (.unreconciled dv) d).2 = d₁ at raised
  have same : d₁.store = d.store := by rw [← started]; rfl
  unfold escalate
  rw [Run.bindM_apply, started, Run.bindM_apply]
  rcases tried : tryStore (Store.createIncident dv.report) d₁ with ⟨r, d₂⟩
  obtain ⟨written, only⟩ := of_tryStore tried
  rw [same] at written
  rcases Store.createIncident_cases written with ⟨e, rfl, idle, planned⟩ | ⟨i, rfl, is, wrote⟩
  · refine ⟨_, .lost (congrArg Prod.fst written) planned, ?_⟩
    rw [← same] at idle
    have kept : Silent slug d₁ d₂ := leaves_of_store only idle.wrote
    exact (raised.done kept).trans (leaves_alarm rfl d₂)
  · refine ⟨_, .recorded (congrArg Prod.fst written) is, ?_⟩
    rw [← same] at wrote
    have left : Leaves slug d₁ d₂ { incidents := [i] } := leaves_of_store only wrote
    exact raised.trans left

/-! ## Submissions -/

/-- **What the failure of a submission leaves behind**: no acknowledgement, and at most one
command. -/
inductive Unplaced (slug : String) : Trail → Prop where
  /-- The order was not put into the venue's words. -/
  | unshaped : Unplaced slug {}
  /-- The venue gave no acknowledgement of the order. -/
  | attempted {order : Submission} {accepted : List (Submission × Payload)}
      (noAck : order.NoAck accepted) :
      Unplaced slug { commands := [.submitted slug order], accepted := accepted }

/-- **How the submission of a leg ends.** -/
theorem submit_cases {ctx : Context} {leg : Leg} {operation : String} {r : Except Failure Ack}
    (h : runFloor (Floor.submit ctx leg operation) d = (r, d')) :
    (∃ reason t, r = .error (.venue operation reason) ∧ Unplaced ctx.slug t
        ∧ Leaves ctx.slug d d' t)
    ∨ ∃ order answer ack, r = .ok ack ∧ order.readAck answer = .ok ack
        ∧ Leaves ctx.slug d d'
            { commands := [.submitted ctx.slug order], accepted := [(order, answer)] } := by
  obtain ⟨ran, only⟩ := of_runFloor h
  have ends := Floor.submits ctx leg operation d.floor
  rw [ran] at ends
  cases ends with
  | taken shaped read said => exact .inr ⟨_, _, _, rfl, read, leaves_of_floor only said⟩
  | unshaped shaped said => exact .inl ⟨_, _, rfl, .unshaped, leaves_of_floor only said⟩
  | failed shaped noAck said => exact .inl ⟨_, _, rfl, .attempted noAck, leaves_of_floor only said⟩

end

end Desk

end OrderDesk

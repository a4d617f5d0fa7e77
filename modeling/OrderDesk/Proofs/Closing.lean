import OrderDesk.Proofs.Walk

/-!
# A cancel is all or nothing

A cancel is asked of a venue, then written to the store, and then it goes on along the
links. Up to the write it can break off, and then nothing was written. From the write on it
cannot: what happens to the orders that are linked is a matter of its own, and whether the
cancel succeeds was decided before.

A `Closing` is an order that was closed, with the desk before and after. `Closes` lists the
closings of a walk along the links one after the other, and the last cancel that was asked
for and not carried out, if there was one. It says more than a `Walk`, which does not tell
what the venue answered, and the orders of a walk are those that it closes and that last
one.
-/

namespace OrderDesk

/-! ## The venue -/

namespace Floor

/-- **A venue confirms a cancel**: it is asked once, it answers, and its answer is not held
against the cancel. -/
structure Confirms (ref : Reference) (user : String) (o : Order) (f g : Floor) : Prop where
  ended : cancelAtVenue ref user o f = (.ok (), g)
  /-- The one command is the cancel, in the words of the order's own row. -/
  said : Said o.venue f g [.canceled o.venue o.venueOrderId o.symbol] []
  /-- The answer is empty, or it can be read and has no word of a filled order. Nothing is
  done after it. -/
  answered : ∃ c f₁ answer, connectAs ref user o.venue f = (.ok c, f₁)
    ∧ onLine c.slug user (Line.cancel o.venueOrderId o.symbol).run f₁ = (.ok answer, g)
    ∧ ∀ ack, answer = some ack → readsFilled ack.status = .ok false

variable {ref : Reference} {user : String} {o : Order} {f g : Floor}

/-- What is not held against a cancel. -/
theorem of_refuse_filled {word : Payload} {s t : Floor}
    (h : (do
      let filled ← check ((readsFilled word).mapError Failure.fault)
      check (Market.refuseIf filled .filledOnVenue) : FloorM Unit) s = (.ok (), t)) :
    readsFilled word = .ok false ∧ s = t := by
  obtain ⟨filled, s₁, read, refused⟩ := Run.of_bind_ok h
  have isRead : (readsFilled word).mapError Failure.fault = .ok filled := congrArg Prod.fst read
  have notRefused : Market.refuseIf filled .filledOnVenue = .ok () := congrArg Prod.fst refused
  have kept : s = s₁ := congrArg Prod.snd read
  refine ⟨?_, kept.trans (congrArg Prod.snd refused)⟩
  cases filled with
  | true => cases notRefused
  | false =>
    cases found : readsFilled word with
    | error e =>
      rw [found] at isRead
      cases isRead
    | ok b =>
      rw [found] at isRead
      cases isRead
      rfl

/-- **A cancel that ends well at its venue** was confirmed. -/
theorem confirms_of_ok (h : cancelAtVenue ref user o f = (.ok (), g)) :
    Confirms ref user o f g := by
  refine ⟨h, ?_, ?_⟩
  · rcases cancelAtVenue_cases h with ⟨e, wrong, -⟩ | said
    · cases wrong
    · exact said
  · obtain ⟨c, f₁, connected, h⟩ := Run.of_bind_ok h
    rcases spoken : onLine c.slug user (Line.cancel o.venueOrderId o.symbol).run f₁ with ⟨r, f₂⟩
    replace h := (Run.lift_bind (onLine c.slug user _) _ f₁).symm.trans h
    rw [spoken] at h
    rcases r with e | _ | ack
    · cases h
    · cases h
      exact ⟨c, f₁, none, connected, spoken, fun ack wrong => nomatch wrong⟩
    · obtain ⟨unfilled, rfl⟩ := of_refuse_filled h
      refine ⟨c, f₁, some ack, connected, spoken, fun ack' is => ?_⟩
      cases is
      exact unfilled

end Floor

/-! ## One order -/

/-- **An order that was closed**: the row that it had and when it was closed, and the desk
before and after. -/
structure Closing where
  order : Order
  time : Stamp
  before : Desk
  after : Desk

namespace Closing

/-- The identifier of the order. -/
def id (c : Closing) : String := c.order.id

/-- The row of the order from then on. -/
def row (c : Closing) : Order := c.order.canceledAt c.time

/-- The cancel that was asked for. -/
def asked (c : Closing) : Asked := ⟨c.before.store.ledger, c.order⟩

/-- **An order was closed as it should be**: it was an open order of the user, its venue
confirmed the cancel while the store was as before, and then its row was written. -/
structure Holds (c : Closing) (user : String) : Prop where
  has : c.before.store.ledger.HasOpen user c.id c.order
  confirmed : Floor.Confirms c.before.reference user c.order c.before.floor c.after.floor
  written : Store.updateStatus c.id OrderStatus.canceled.name none c.before.store
    = (.ok (some c.row.ticket), c.after.store)
  /-- Nothing but the one row of the ledger was written. -/
  ledger : c.after.store.ledger = c.before.store.ledger.close c.id c.time
  incidents : c.after.store.incidents = c.before.store.incidents
  /-- Nothing but the floor and the store is different. -/
  only : c.after = { c.before with floor := c.after.floor, store := c.after.store }

end Closing

namespace Desk

variable {user id : String} {d d' : Desk}

/-- **A cancel that is not broken off** closes its order. -/
theorem closing_of_cancelOne {r : Retired} (h : cancelOne user id d = (.ok r, d')) :
    ∃ c : Closing, c.Holds user ∧ c.id = id ∧ c.before = d ∧ c.after = d'
      ∧ r = ⟨c.row.ticket, c.order.sibling?⟩ := by
  unfold cancelOne at h
  cases can : d.store.ledger.cancelable user id with
  | error e =>
    rw [can] at h
    cases h
  | ok o =>
    have has := Ledger.cancelable_iff.mp can
    rw [can] at h
    dsimp only at h
    rcases asked : (Floor.cancelAtVenue d.reference user o).run d.floor with ⟨e | done, f⟩ <;>
      rw [asked] at h
    · cases h
    dsimp only at h
    rcases updated : Store.updateRow o OrderStatus.canceled.name none d.store with ⟨w, s⟩
    rw [updated] at h
    rcases Store.updateRow_cases updated with ⟨e, rfl, idle⟩ | ⟨time, rfl, ledger, incidents⟩
    · cases h
    · cases h
      have same : o.id = id := has.id_eq
      subst same
      have written := (Store.updateStatus_eq_some_iff has.stored).mpr updated
      exact ⟨⟨o, time, d, { d with floor := f, store := s }⟩,
        ⟨has, Floor.confirms_of_ok asked, written, ledger, incidents, rfl⟩, rfl, rfl, rfl, rfl⟩

/-- **What it takes for a cancel not to break off** is that its order can be closed. -/
theorem cancelOne_of_holds {c : Closing} (h : c.Holds user) :
    cancelOne user c.id c.before = (.ok ⟨c.row.ticket, c.order.sibling?⟩, c.after) := by
  have asked : (Floor.cancelAtVenue c.before.reference user c.order).run c.before.floor
      = (.ok (), c.after.floor) := h.confirmed.ended
  rw [h.only]
  unfold cancelOne
  rw [Ledger.cancelable_iff.mpr h.has]
  dsimp only
  rw [asked]
  dsimp only
  rw [(Store.updateStatus_eq_some_iff h.has.stored).mp h.written]
  rfl

/-- What is no open order of the user cannot be canceled, and nothing is done. -/
theorem cancelOne_of_not_open (h : ∀ o, ¬ d.store.ledger.HasOpen user id o) :
    ∃ e, cancelOne user id d = (.error e, d) := by
  unfold cancelOne
  cases can : d.store.ledger.cancelable user id with
  | error e => exact ⟨e, rfl⟩
  | ok o => exact absurd (Ledger.cancelable_iff.mp can) (h o)

/-- Then the whole operation does nothing. -/
theorem cancelOrder_of_not_open (h : ∀ o, ¬ d.store.ledger.HasOpen user id o) :
    ∃ e, cancelOrder user id d = (.error e, d) := by
  obtain ⟨e, one⟩ := cancelOne_of_not_open h
  unfold cancelOrder
  rw [one]
  exact ⟨e, rfl⟩

/-! ## Along the links -/

/-- **Nothing was done** between two states of the desk, as far as the commands and the rows
tell. Notices may have been given. -/
structure Unmoved (d d' : Desk) : Prop where
  commands : d'.floor.commands = d.floor.commands
  ledger : d'.store.ledger = d.store.ledger
  incidents : d'.store.incidents = d.store.incidents

/-- Nothing at all was done. -/
theorem Unmoved.refl (d : Desk) : Unmoved d d := ⟨rfl, rfl, rfl⟩

theorem Unmoved.trans {d d' d'' : Desk} (h : Unmoved d d') (h' : Unmoved d' d'') :
    Unmoved d d'' :=
  ⟨h'.commands.trans h.commands, h'.ledger.trans h.ledger, h'.incidents.trans h.incidents⟩

/-- **Which orders are closed** along the links from an identifier on, one after the other,
and the cancel at which it ended, if that one was asked for in vain. -/
inductive Closes (user : String) : String → Desk → List Closing → Option Asked → Desk → Prop
    where
  /-- No venue can be asked. -/
  | stuck {id : String} {d d' : Desk} (stuck : Stuck user id d) (unmoved : Unmoved d d') :
      Closes user id d [] none d'
  /-- A cancel is asked for in vain. -/
  | failed {id : String} {d d' : Desk} {o : Order} (has : d.store.ledger.HasOpen user id o)
      (commands : d'.floor.commands = d.floor.commands ++ [(Asked.mk d.store.ledger o).command])
      (ledger : d'.store.ledger = d.store.ledger)
      (incidents : d'.store.incidents = d.store.incidents) :
      Closes user id d [] (some ⟨d.store.ledger, o⟩) d'
  /-- The order is closed, and is linked to none. -/
  | last {d' : Desk} {c : Closing} (holds : c.Holds user) (alone : c.order.sibling? = none)
      (unmoved : Unmoved c.after d') : Closes user c.id c.before [c] none d'
  /-- The order is closed, and then those from its sibling on. -/
  | onward {next : String} {d' : Desk} {c : Closing} {cs : List Closing} {failed : Option Asked}
      (holds : c.Holds user) (link : c.order.sibling? = some next)
      (later : Closes user next c.after cs failed d') :
      Closes user c.id c.before (c :: cs) failed d'

section

variable {cs : List Closing} {failed : Option Asked}

/-- The cancels that were asked for, in their order. -/
def askedFor (cs : List Closing) (failed : Option Asked) : List Asked :=
  cs.map (·.asked) ++ failed.toList

/-- What is done without a trace afterwards does not matter. -/
theorem Closes.unmoved {d'' : Desk} (h : Closes user id d cs failed d') (after : Unmoved d' d'') :
    Closes user id d cs failed d'' := by
  induction h with
  | stuck stuck unmoved =>
    exact .stuck stuck (unmoved.trans after)
  | failed has commands ledger incidents =>
    exact .failed has (after.commands.trans commands) (after.ledger.trans ledger)
      (after.incidents.trans incidents)
  | last holds alone unmoved => exact .last holds alone (unmoved.trans after)
  | onward holds link _ ih => exact .onward holds link (ih after)

/-- **Closing orders along the links is a walk.** -/
theorem Closes.walk (h : Closes user id d cs failed d') :
    Walk user id d (askedFor cs failed) d' := by
  induction h with
  | stuck stuck unmoved => exact .rest stuck unmoved.commands
  | failed has commands ledger incidents => exact .last has commands (.inl ledger)
  | last holds alone unmoved =>
    refine .last holds.has ?_ (.inr alone)
    rw [unmoved.commands]
    exact holds.confirmed.said.commands
  | onward holds link _ ih =>
    exact .onward holds.has holds.confirmed.said.commands holds.ledger link ih

/-- The cancels that were carried out are among those that were asked for. -/
theorem mem_askedFor {c : Closing} (mem : c ∈ cs) : c.asked ∈ askedFor cs failed :=
  List.mem_append_left _ (List.mem_map_of_mem mem)

/-- Every order was closed as it should be. -/
theorem Closes.holds (h : Closes user id d cs failed d') : ∀ c ∈ cs, c.Holds user := by
  induction h with
  | stuck | failed => exact fun c mem => absurd mem List.not_mem_nil
  | last holds => exact fun c mem => List.mem_singleton.mp mem ▸ holds
  | onward holds _ _ ih =>
    intro c mem
    rcases List.mem_cons.mp mem with rfl | later
    · exact holds
    · exact ih c later

/-- **A row that was not closed** is as it was. -/
theorem Closes.others (h : Closes user id d cs failed d') {other : String}
    (apart : ∀ c ∈ cs, c.id ≠ other) :
    d'.store.ledger.find? other = d.store.ledger.find? other := by
  induction h with
  | stuck _ unmoved => rw [unmoved.ledger]
  | failed _ _ ledger => rw [ledger]
  | last holds _ unmoved =>
    rw [unmoved.ledger, holds.ledger]
    exact Ledger.find?_close_other _ (apart _ (List.mem_cons_self ..)).symm
  | onward holds _ _ ih =>
    rw [ih fun c mem => apart c (List.mem_cons_of_mem _ mem), holds.ledger]
    exact Ledger.find?_close_other _ (apart _ (List.mem_cons_self ..)).symm

/-- **A row that was closed** stays closed. -/
theorem Closes.closed (h : Closes user id d cs failed d') :
    ∀ c ∈ cs, d'.store.ledger.find? c.id = some c.row := by
  have here : ∀ {c : Closing}, c.Holds user → c.after.store.ledger.find? c.id = some c.row := by
    intro c holds
    rw [holds.ledger]
    exact Ledger.find?_close_self _ holds.has.stored
  induction h with
  | stuck | failed => exact fun c mem => absurd mem List.not_mem_nil
  | last holds _ unmoved =>
    intro c mem
    obtain rfl := List.mem_singleton.mp mem
    rw [unmoved.ledger]
    exact here holds
  | onward holds link later ih =>
    intro c mem
    rcases List.mem_cons.mp mem with rfl | after
    · -- what is closed later was open until then, so it is another order
      rw [later.others fun k among same => ?_]
      · exact here holds
      · have stillOpen := (later.walk.hasOpen k.asked (mem_askedFor among)).2
        rw [holds.ledger] at stillOpen
        exact (stillOpen.of_close holds.has.stored).1 same
    · exact ih c after

/-- No row is written and none disappears. -/
theorem Closes.ids (h : Closes user id d cs failed d') :
    d'.store.ledger.rows.map (·.id) = d.store.ledger.rows.map (·.id) := by
  have here : ∀ {c : Closing}, c.Holds user →
      c.after.store.ledger.rows.map (·.id) = c.before.store.ledger.rows.map (·.id) := by
    intro c holds
    rw [holds.ledger]
    show (List.map _ _).map _ = _
    rw [List.map_map]
    exact List.map_congr_left fun o _ => Ledger.id_changed _ _ o
  induction h with
  | stuck _ unmoved => rw [unmoved.ledger]
  | failed _ _ ledger => rw [ledger]
  | last holds _ unmoved => rw [unmoved.ledger, here holds]
  | onward holds _ _ ih => rw [ih, here holds]

theorem Closes.incidents (h : Closes user id d cs failed d') :
    d'.store.incidents = d.store.incidents := by
  induction h with
  | stuck _ unmoved => exact unmoved.incidents
  | failed _ _ _ incidents => exact incidents
  | last holds _ unmoved => rw [unmoved.incidents, holds.incidents]
  | onward holds _ _ ih => rw [ih, holds.incidents]

end

/-! ## The operations -/

/-- A cancel that breaks off closes nothing. -/
theorem closes_of_error {e : Failure} (h : cancelOne user id d = (.error e, d')) :
    ∃ failed, Closes user id d [] failed d' := by
  have ends := cancelsOne user id d
  rw [h] at ends
  cases ends with
  | unasked stuck reads => exact ⟨none, .stuck stuck ⟨reads.commands, rfl, rfl⟩⟩
  | refused has said idle => exact ⟨_, .failed has said.commands idle.ledger idle.incidents⟩

/-- **Going on to a linked order is canceling it**, but for what is made of a failure: a
notice, and no failure. -/
theorem cascade_cancelOrder (user linked : String) (d : Desk) :
    (cascade user linked d).1 = (cancelOrder user linked d).1.toOption
    ∧ Unmoved (cancelOrder user linked d).2 (cascade user linked d).2 := by
  rw [cascade_eq]
  by_cases tried : ∃ o, d.store.ledger.HasOpen user linked o
  · obtain ⟨o, has⟩ := tried
    obtain ⟨s, read, canBe⟩ := has.read
    rw [has.owned]
    dsimp only
    rw [read]
    dsimp only
    rw [canBe, has.id_eq]
    unfold cancelOrder
    rcases cancelOne user linked d with ⟨_ | ⟨ticket, _ | next⟩, d₁⟩ <;>
      exact ⟨rfl, rfl, rfl, rfl⟩
  · -- an order that the walk does not try is one that a cancel does not touch
    have untouched := fun o has => tried ⟨o, has⟩
    obtain ⟨e, whole⟩ := cancelOrder_of_not_open untouched
    rw [whole]
    cases owned : d.store.ledger.findOwned? user linked with
    | none => exact ⟨rfl, rfl, rfl, rfl⟩
    | some o =>
      dsimp only
      cases read : OrderStatus.read o.status with
      | error e => exact ⟨rfl, rfl, rfl, rfl⟩
      | ok status =>
        dsimp only
        cases canBe : status.isCancelable with
        | false => exact ⟨rfl, rfl, rfl, rfl⟩
        | true => exact absurd (Ledger.hasOpen_of_read owned read canBe) (untouched o)

/-- **A cancel closes orders along the links**, from the order on, and gives the first of
them. -/
theorem closes_cancelOrder (user id : String) (d : Desk) :
    ∃ cs failed, Closes user id d cs failed (cancelOrder user id d).2
      ∧ (cancelOrder user id d).1.toOption = cs.head?.map (·.row.ticket) := by
  -- every order that is closed leaves fewer open ones
  induction count : d.store.ledger.openCount using Nat.strongRecOn generalizing id d with
  | _ n ih =>
    unfold cancelOrder
    rcases canceled : cancelOne user id d with ⟨e | r, d₁⟩
    · obtain ⟨failed, closes⟩ := closes_of_error canceled
      exact ⟨[], failed, closes, rfl⟩
    have fewer := count ▸ openCount_cancelOne canceled
    obtain ⟨c, holds, rfl, rfl, rfl, rfl⟩ := closing_of_cancelOne canceled
    cases link : c.order.sibling? with
    | none => exact ⟨[c], none, .last holds link (.refl _), rfl⟩
    | some next =>
      obtain ⟨cs, failed, closes, -⟩ := ih _ fewer next c.after rfl
      have onward := closes.unmoved (cascade_cancelOrder user next c.after).2
      exact ⟨c :: cs, failed, .onward holds link onward, rfl⟩

/-- **What a cancel does that succeeds**: an order was closed, then others along the links,
and at last a cancel may have been asked for in vain. -/
structure Cancels (user : String) (c : Closing) (later : List Closing) (failed : Option Asked)
    (d' : Desk) : Prop where
  /-- The venue of each order confirmed its cancel, and then its row was written. -/
  holds : ∀ k ∈ c :: later, k.Holds user
  /-- Each of them was an open order of the user from the beginning, with the same row. -/
  wasOpen : ∀ k ∈ c :: later, c.before.store.ledger.HasOpen user k.id k.order
  /-- Each of them is on the chain of links from the first one on. -/
  onChain : ∀ k ∈ c :: later, Relation.ReflTransGen c.before.store.ledger.Leads c.id k.id
  /-- Their rows are canceled ones, and nothing else in them is new. -/
  closed : ∀ k ∈ c :: later, d'.store.ledger.find? k.id = some k.row
  /-- Every other row is as it was. -/
  others : ∀ other, (∀ k ∈ c :: later, k.id ≠ other) →
    d'.store.ledger.find? other = c.before.store.ledger.find? other
  /-- The rows are those that there were, in their order. -/
  ids : d'.store.ledger.rows.map (·.id) = c.before.store.ledger.rows.map (·.id)
  incidents : d'.store.incidents = c.before.store.incidents
  /-- The venues were told to cancel these orders and the one that failed, and nothing else. -/
  commands : d'.floor.commands
    = c.before.floor.commands ++ (askedFor (c :: later) failed).map (·.command)
  /-- No order was asked for twice. -/
  once : ((askedFor (c :: later) failed).map (·.id)).Nodup

/-- **How a cancel ends.** -/
inductive CancelEnds (user : String) : String → Desk → Except Failure Ticket → Desk → Prop where
  /-- It breaks off, and nothing was written. At most its own order was asked for. -/
  | brokenOff {id : String} {d d' : Desk} {e : Failure} {failed : Option Asked}
      (ledger : d'.store.ledger = d.store.ledger)
      (incidents : d'.store.incidents = d.store.incidents)
      (commands : d'.floor.commands = d.floor.commands ++ failed.toList.map (·.command))
      (own : ∀ a ∈ failed, a.id = id) : CancelEnds user id d (.error e) d'
  /-- It succeeds, and gives the row that its order has then. -/
  | canceled {d' : Desk} {c : Closing} {later : List Closing} {failed : Option Asked}
      (cancels : Cancels user c later failed d') :
      CancelEnds user c.id c.before (.ok c.row.ticket) d'

/-- Closing at least one order is a cancel that succeeds. -/
theorem Closes.cancels {c : Closing} {later : List Closing} {failed : Option Asked}
    (h : Closes user id d (c :: later) failed d') :
    c.id = id ∧ c.before = d ∧ Cancels user c later failed d' := by
  have first : c.id = id ∧ c.before = d := by
    cases h <;> exact ⟨rfl, rfl⟩
  obtain ⟨rfl, rfl⟩ := first
  have walk := h.walk
  exact ⟨rfl, rfl, {
    holds := h.holds
    wasOpen := fun k mem => (walk.hasOpen k.asked (mem_askedFor mem)).2
    onChain := fun k mem => walk.onChain k.asked (mem_askedFor mem)
    closed := h.closed
    others := fun _ apart => h.others apart
    ids := h.ids
    incidents := h.incidents
    commands := walk.commands
    once := walk.once }⟩

/-- Closing no order is a cancel that breaks off. -/
theorem Closes.brokenOff {failed : Option Asked} (e : Failure)
    (h : Closes user id d [] failed d') : CancelEnds user id d (.error e) d' := by
  refine .brokenOff ?_ h.incidents h.walk.commands ?_
  · cases h with
    | stuck _ unmoved => exact unmoved.ledger
    | failed _ _ ledger => exact ledger
  · cases h with
    | stuck => exact fun a wrong => nomatch wrong
    | failed has =>
      intro a same
      obtain rfl := Option.some.inj same
      exact has.id_eq

end Desk

end OrderDesk

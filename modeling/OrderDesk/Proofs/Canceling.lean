import OrderDesk.Desk.Cancellation
import OrderDesk.Proofs.Commands
import OrderDesk.Proofs.Preparation
import OrderDesk.Proofs.Writing

/-!
# How the cancel of one order ends

Whether an order can be canceled is decided by its row, and then by its venue, and at last
by the store. A cancel can therefore break off before the venue was asked, after the venue
was asked and before anything was written, or not at all. `CancelsOne` is these three ways,
each with what was said and what was written. That a failure leaves every row as it was, and
that a success changes one row in its status and its time alone, is read off it; so is
everything about several cancels in a row.
-/

namespace OrderDesk

/-! ## One row that changes -/

namespace Ledger

variable {l : Ledger} {id : String} {change : Order → Order}

/-- **Looking a row up after a change** is looking it up before, and changing it. -/
theorem find?_update (l : Ledger) (id : String) (change : Order → Order) (other : String) :
    (l.update id change).find? other = (l.find? other).map (changed id change) := by
  show (l.rows.map (changed id change)).find? _ = _
  rw [List.find?_map]
  have same : ((·.id == other) ∘ changed id change : Order → Bool) = (·.id == other) := by
    funext o
    show ((changed id change o).id == other) = _
    rw [id_changed]
  rw [same]
  rfl

/-- The row that a change is about, after it. -/
theorem find?_update_self {o : Order} (found : l.find? id = some o) :
    (l.update id change).find? id = some { change o with id := o.id } := by
  obtain rfl := id_of_find? found
  rw [find?_update, found]
  exact congrArg some (changed_self o)

/-- A row that a change is not about, after it. -/
theorem find?_update_other {other : String} (apart : other ≠ id) :
    (l.update id change).find? other = l.find? other := by
  rw [find?_update]
  cases found : l.find? other with
  | none => rfl
  | some o => exact congrArg some (changed_other (by rwa [id_of_find? found]))

/-- The order of a user that is found has the identifier it was looked for under. -/
theorem id_of_findOwned? {user : String} {o : Order} (h : l.findOwned? user id = some o) :
    o.id = id :=
  id_of_find? (Option.filter_eq_some_iff.mp h).1

/-- **An order of a user is open** in a ledger, under an identifier. -/
structure HasOpen (l : Ledger) (user id : String) (o : Order) : Prop where
  stored : l.find? id = some o
  owner : o.user = user
  isOpen : o.isOpen = true

theorem HasOpen.id_eq {user : String} {o : Order} (h : l.HasOpen user id o) : o.id = id :=
  id_of_find? h.stored

theorem HasOpen.owned {user : String} {o : Order} (h : l.HasOpen user id o) :
    l.findOwned? user id = some o := by
  unfold findOwned?
  rw [h.stored, Option.filter_some, h.owner, beq_self_eq_true]
  rfl

/-- The status of an open order can be read, and can be canceled. -/
theorem HasOpen.read {user : String} {o : Order} (h : l.HasOpen user id o) :
    ∃ s, OrderStatus.read o.status = .ok s ∧ s.isCancelable = true := by
  have isOpen := h.isOpen
  unfold Order.isOpen at isOpen
  unfold OrderStatus.read
  cases named : (Vocabulary.ofName? o.status : Option OrderStatus) with
  | none =>
    rw [named] at isOpen
    cases isOpen
  | some s =>
    rw [named] at isOpen
    exact ⟨s, rfl, isOpen⟩

/-- An order of a user whose status can be read and can be canceled is open. -/
theorem hasOpen_of_read {user : String} {o : Order} {s : OrderStatus}
    (owned : l.findOwned? user id = some o) (read : OrderStatus.read o.status = .ok s)
    (canBe : s.isCancelable = true) : l.HasOpen user id o := by
  obtain ⟨stored, owner⟩ := Option.filter_eq_some_iff.mp owned
  refine ⟨stored, beq_iff_eq.mp owner, ?_⟩
  unfold OrderStatus.read at read
  unfold Order.isOpen
  cases named : (Vocabulary.ofName? o.status : Option OrderStatus) with
  | none =>
    rw [named] at read
    cases read
  | some s' =>
    rw [named] at read
    cases read
    exact canBe

/-- **What can be canceled is what is open.** -/
theorem cancelable_iff {user : String} {o : Order} :
    l.cancelable user id = .ok o ↔ l.HasOpen user id o := by
  constructor
  · intro can
    obtain ⟨stored, owner, isOpen⟩ := isOpen_of_cancelable can
    exact ⟨stored, owner, isOpen⟩
  · intro has
    obtain ⟨s, read, canBe⟩ := has.read
    unfold cancelable
    rw [has.owned]
    dsimp only
    rw [read]
    cases s with
    | new => rfl
    | partiallyFilled => rfl
    | _ => cases canBe

end Ledger

namespace Order

/-- **A row that was canceled** at a time: nothing but its status and the time of its last
change is new. -/
def canceledAt (o : Order) (time : Stamp) : Order :=
  { o with status := OrderStatus.canceled.name, updatedAt := time }

/-- The order that is canceled with it. -/
def sibling? (o : Order) : Option String := o.link.filter (!·.isEmpty)

/-- An order is linked to its sibling. -/
theorem link_of_sibling? {o : Order} {next : String} (h : o.sibling? = some next) :
    o.link = some next :=
  (Option.filter_eq_some_iff.mp h).1

/-- A canceled row is not open. -/
theorem isOpen_canceledAt (o : Order) (time : Stamp) : (o.canceledAt time).isOpen = false := rfl

/-- An order is open as long as its status is one of the open ones. -/
theorem isOpen_iff (o : Order) : o.isOpen = true ↔ o.status ∈ Ledger.openStatuses := by
  unfold isOpen
  constructor
  · intro isOpen
    cases named : (Vocabulary.ofName? o.status : Option OrderStatus) with
    | none =>
      rw [named] at isOpen
      cases isOpen
    | some s =>
      have found := List.find?_some named
      have name : OrderStatus.name s = o.status := beq_iff_eq.mp found
      rw [named] at isOpen
      rw [← name]
      cases s with
      | new => exact List.mem_cons_self ..
      | partiallyFilled => exact List.mem_cons_of_mem _ (List.mem_singleton.mpr rfl)
      | _ => cases isOpen
  · intro listed
    rcases List.mem_cons.mp listed with new | rest
    · rw [new]
      decide
    · rw [List.mem_singleton.mp rest]
      decide

end Order

namespace Ledger

variable {l : Ledger} {user id : String} {o : Order}

/-- **The ledger after a cancel.** -/
def close (l : Ledger) (id : String) (time : Stamp) : Ledger :=
  l.update id (·.canceledAt time)

theorem find?_close_self (time : Stamp) (found : l.find? id = some o) :
    (l.close id time).find? id = some (o.canceledAt time) :=
  find?_update_self found

theorem find?_close_other (time : Stamp) {other : String} (apart : other ≠ id) :
    (l.close id time).find? other = l.find? other :=
  find?_update_other apart

/-- **What is open after a cancel** is another order, and was open before. -/
theorem HasOpen.of_close {time : Stamp} {other : String} {x : Order}
    (found : l.find? id = some o) (h : (l.close id time).HasOpen user other x) :
    other ≠ id ∧ l.HasOpen user other x := by
  have apart : other ≠ id := by
    rintro rfl
    have closed := h.stored
    rw [find?_close_self time found] at closed
    cases closed
    exact absurd h.isOpen (by rw [Order.isOpen_canceledAt]; decide)
  exact ⟨apart, by rw [← find?_close_other time apart, h.stored], h.owner, h.isOpen⟩

end Ledger

/-! ## The store -/

namespace Store

variable {s t : Store}

theorem spares_setRow (o : Order) (status : String) (executed : Option Float) :
    Keeps Spares (setRow o status executed).run := fun s => refl_of Spares s

theorem spares_setStatus (id status : String) (executed : Option Float) :
    Keeps Spares (setStatus id status executed).run := by
  intro s
  show Spares s (setStatus id status executed s).2
  unfold setStatus
  cases s.ledger.find? id <;> exact refl_of Spares s

/-- **How the setting of the status of a row ends**: nothing is written, or the row is changed. -/
theorem updateRow_cases {o : Order} {status : String} {executed : Option Float}
    {r : Except Fault Ticket} (h : updateRow o status executed s = (r, t)) :
    (∃ e, r = .error e ∧ Idles s t)
    ∨ ∃ time, r = .ok (ticketWithStatus status executed time o)
        ∧ t.ledger = s.ledger.update o.id (withStatus status executed time)
        ∧ t.incidents = s.incidents := by
  rcases transaction_cases (spares_setRow o status executed) h with
    ⟨e, rfl, idle⟩ | ⟨a, begun, middle, rfl, before, body, after⟩
  · exact .inl ⟨e, rfl, idle⟩
  · cases body
    exact .inr ⟨_, rfl, by rw [after.ledger, before.ledger],
      by rw [after.incidents, before.incidents]⟩

/-- **How the setting of a status ends**: nothing is written, or the row of the order is
changed. -/
theorem updateStatus_cases {id status : String} {executed : Option Float}
    {r : Except Fault (Option Ticket)} (h : updateStatus id status executed s = (r, t)) :
    (∃ e, r = .error e ∧ Idles s t)
    ∨ (s.ledger.find? id = none ∧ r = .ok none ∧ Idles s t)
    ∨ ∃ o time, s.ledger.find? id = some o
        ∧ r = .ok (some (ticketWithStatus status executed time o))
        ∧ t.ledger = s.ledger.update id (withStatus status executed time)
        ∧ t.incidents = s.incidents := by
  rcases transaction_cases (spares_setStatus id status executed) h with
    ⟨e, rfl, idle⟩ | ⟨a, begun, middle, rfl, before, body, after⟩
  · exact .inl ⟨e, rfl, idle⟩
  refine .inr ?_
  unfold setStatus at body
  cases found : begun.ledger.find? id with
  | none =>
    rw [found] at body
    cases body
    exact .inl ⟨by rw [← before.ledger, found], rfl, trans_of Idles before after⟩
  | some o =>
    rw [found] at body
    cases body
    refine .inr ⟨o, _, by rw [← before.ledger, found], rfl, ?_, ?_⟩
    · rw [after.ledger, ← before.ledger, ← Ledger.id_of_find? found]
    · rw [after.incidents, before.incidents]

end Store

/-! ## The venue -/

namespace Floor

variable {ref : Reference} {user : String} {o : Order} {f g : Floor}

/-- **How the cancel at a venue ends**: without a connection, or with the one cancel that
was asked for. -/
theorem cancelAtVenue_cases {r : Except Failure Unit}
    (h : cancelAtVenue ref user o f = (r, g)) :
    (∃ e, r = .error e ∧ (connectAs ref user o.venue f).1 = .error e ∧ f.Reads g)
    ∨ Said o.venue f g [.canceled o.venue o.venueOrderId o.symbol] [] := by
  rcases (keeps_connectAs ref user o.venue).of_bind h with
    ⟨e, unconnected, rfl, reads⟩ | ⟨connection, f₁, connected, reads, h⟩
  · exact .inl ⟨e, rfl, congrArg Prod.fst unconnected, reads⟩
  refine .inr ?_
  obtain ⟨credential, f₀, -, resolved⟩ := Run.of_bind_ok connected
  have slug : connection.slug = o.venue := slug_of_resolve resolved
  have asked : Said o.venue f₁
      (onLine connection.slug user (Line.cancel o.venueOrderId o.symbol).run f₁).2
      [.canceled o.venue o.venueOrderId o.symbol] [] := by
    rw [slug]
    exact said_onLine (Line.said_cancel o.venueOrderId o.symbol (f₁.session o.venue user))
  have whole := (reads.said o.venue).trans asked
  -- what is made of the answer says nothing more
  rcases Run.of_bind h with ⟨_, wrong, -⟩ | ⟨answer, f₂, answered, h⟩
  · cases wrong
  have same : (onLine connection.slug user (Line.cancel o.venueOrderId o.symbol).run f₁).2 = f₂ :=
    congrArg Prod.snd answered
  rw [same] at whole
  cases answer with
  | error e =>
    cases h
    exact whole
  | ok ack =>
    cases ack with
    | none =>
      cases h
      exact whole
    | some ack =>
      rcases Run.of_bind h with ⟨e, unread, rfl⟩ | ⟨filled, f₃, isRead, h⟩
      · have left : f₂ = g := congrArg Prod.snd unread
        rwa [left] at whole
      · have kept : f₂ = f₃ := congrArg Prod.snd isRead
        have left : f₃ = g := congrArg Prod.snd h
        rwa [kept, left] at whole

end Floor

/-! ## The desk -/

namespace Desk

variable {user id : String} {d d' : Desk}

/-- **No venue can be asked** for the cancel of an order: it is no open order of the user,
or there is no connection to its venue. -/
def Stuck (user id : String) (d : Desk) : Prop :=
  ∀ o, d.store.ledger.HasOpen user id o →
    ∃ e, (Floor.connectAs d.reference user o.venue d.floor).1 = .error e

/-- **How the cancel of one order ends.** -/
inductive CancelsOne (user id : String) (d : Desk) : Except Failure Retired → Desk → Prop where
  /-- No venue was asked, and nothing was written. -/
  | unasked {e : Failure} {f : Floor} (stuck : Stuck user id d) (reads : d.floor.Reads f) :
      CancelsOne user id d (.error e) { d with floor := f }
  /-- The venue was asked, and nothing was written. -/
  | refused {o : Order} {e : Failure} {f : Floor} {s : Store}
      (has : d.store.ledger.HasOpen user id o)
      (said : Floor.Said o.venue d.floor f [.canceled o.venue o.venueOrderId o.symbol] [])
      (idle : Store.Idles d.store s) :
      CancelsOne user id d (.error e) { d with floor := f, store := s }
  /-- The venue was asked and the row was closed. -/
  | closed {o : Order} {time : Stamp} {f : Floor} {s : Store}
      (has : d.store.ledger.HasOpen user id o)
      (said : Floor.Said o.venue d.floor f [.canceled o.venue o.venueOrderId o.symbol] [])
      (ledger : s.ledger = d.store.ledger.close id time)
      (incidents : s.incidents = d.store.incidents) :
      CancelsOne user id d
        (.ok ⟨Store.ticketWithStatus OrderStatus.canceled.name none time o, o.sibling?⟩)
        { d with floor := f, store := s }

/-- **The cancel of one order** ends in one of the three ways. -/
theorem cancelsOne (user id : String) (d : Desk) :
    CancelsOne user id d (cancelOne user id d).1 (cancelOne user id d).2 := by
  unfold cancelOne
  cases can : d.store.ledger.cancelable user id with
  | error e =>
    refine .unasked (fun o has => ?_) (refl_of Floor.Reads d.floor)
    rw [Ledger.cancelable_iff.mpr has] at can
    cases can
  | ok o =>
    have has := Ledger.cancelable_iff.mp can
    dsimp only
    rcases asked : (Floor.cancelAtVenue d.reference user o).run d.floor with ⟨r, f⟩
    rcases Floor.cancelAtVenue_cases asked with ⟨e, rfl, unconnected, reads⟩ | said
    · refine .unasked (fun o' has' => ?_) reads
      obtain rfl := Option.some.inj (has.stored.symm.trans has'.stored)
      exact ⟨e, unconnected⟩
    cases r with
    | error e => exact .refused has said (refl_of Store.Idles d.store)
    | ok _ =>
      dsimp only
      rcases updated : Store.updateRow o OrderStatus.canceled.name none d.store with ⟨w, s⟩
      rcases Store.updateRow_cases updated with ⟨e, rfl, idle⟩ | ⟨time, rfl, ledger, incidents⟩
      · exact .refused has said idle
      · rw [has.id_eq] at ledger
        exact .closed has said ledger incidents

/-! ## Several cancels in a row -/

/-- **One step of the walk along the links.** -/
theorem cascade_eq (user linked : String) (d : Desk) :
    cascade user linked d = match d.store.ledger.findOwned? user linked with
      | none => (none, d)
      | some o =>
        match OrderStatus.read o.status with
        | .error e => (none, endCascade linked (.fault e) d)
        | .ok status =>
          if !status.isCancelable then (none, d)
          else
            match cancelOne user o.id d with
            | (.error e, d') => (none, endCascade linked e d')
            | (.ok ⟨ticket, none⟩, d') => (some ticket, d')
            | (.ok ⟨ticket, some next⟩, d') => (some ticket, (cascade user next d').2) := by
  rw [cascade.eq_def]
  cases d.store.ledger.findOwned? user linked with
  | none => rfl
  | some o =>
    dsimp only
    cases OrderStatus.read o.status with
    | error e => rfl
    | ok status =>
      dsimp only
      split
      · rfl
      · rcases cancelOne user o.id d with ⟨_ | ⟨_, _ | _⟩, _⟩ <;> rfl

section

variable {R : Desk → Desk → Prop} [IsPreorder Desk R] (one : ∀ id d, R d (cancelOne user id d).2)
  (noticed : ∀ n d, R d { d with floor := d.floor.notify n })

include one noticed

/-- **What every cancel keeps, a walk along the links keeps**, and notices keep it too. -/
theorem keeps_cascade (linked : String) (d : Desk) : R d (cascade user linked d).2 := by
  fun_induction cascade user linked d with
  | case1 linked d missing => exact refl_of R d
  | case2 linked d o owned e unread => exact noticed _ d
  | case3 linked d o owned status read closed => exact refl_of R d
  | case4 linked d o owned status read isOpen e d' canceled =>
    have kept := one o.id d
    rw [canceled] at kept
    exact trans_of R kept (noticed _ d')
  | case5 linked d o owned status read isOpen ticket d' canceled =>
    have kept := one o.id d
    rwa [canceled] at kept
  | case6 linked d o owned status read isOpen ticket next d' canceled ih =>
    have kept := one o.id d
    rw [canceled] at kept
    exact trans_of R kept ih

/-- The cancel of an order and of what it is linked to. -/
theorem keeps_cancelOrder (id : String) (d : Desk) : R d (cancelOrder user id d).2 := by
  have kept := one id d
  unfold cancelOrder
  rcases canceled : cancelOne user id d with ⟨e | ⟨ticket, _ | next⟩, d'⟩ <;>
    rw [canceled] at kept
  · exact kept
  · exact kept
  · exact trans_of R kept (keeps_cascade one noticed next d')

/-- The cancel of what a filled order is linked to. -/
theorem keeps_handleFill (id : String) (d : Desk) : R d (handleFill user id d).2 := by
  unfold handleFill
  cases d.store.ledger.findOwned? user id with
  | none => exact refl_of R d
  | some o =>
    dsimp only
    cases o.link.filter (!·.isEmpty) with
    | none => exact refl_of R d
    | some next => exact keeps_cascade one noticed next d

end

end Desk

end OrderDesk

import OrderDesk.Desk.Query
import OrderDesk.Proofs.Respects
import OrderDesk.Proofs.Writing

/-!
# Stores that a user cannot tell apart

What a user sees of a store is the rows that are the user's own, and beside them the supply
of identifiers, the clock, and what is planned to fail. Two stores with the same of these are
`Alike` for the user, whatever rows of others they hold and whatever these are linked to.

Most operations on a store look at own rows only. Two go by an identifier alone. A status is
set wherever the identifier is found, so that the two stores have to agree on who owns it.
And a row cannot be written under an identifier that is taken, by whomever. Rows are written
under identifiers from the supply, and that is why likeness includes that those still to come
are taken in both stores or in neither.
-/

namespace OrderDesk

/-! ## Rows of a user, and rows of others -/

namespace Ledger

/-- **The rows of a user.** -/
def own (l : Ledger) (user : String) : List Order := l.rows.filter (·.user == user)

/-- **The rows of everybody else.** -/
def others (l : Ledger) (user : String) : List Order := l.rows.filter (·.user != user)

/-- An identifier is that of a row, whoever owns it. -/
def Takes (l : Ledger) (id : String) : Prop := id ∈ l.rows.map (·.id)

variable {l l' : Ledger} {user id : String} {change : Order → Order}

/-- **A user finds an order** when it is among the user's own. -/
theorem findOwned?_eq_some_iff {o : Order} :
    l.findOwned? user id = some o ↔ o ∈ l.own user ∧ o.id = id := by
  unfold findOwned? own
  rw [Option.filter_eq_some_iff, List.mem_filter]
  constructor
  · rintro ⟨found, owned⟩
    exact ⟨⟨mem_of_find? found, owned⟩, id_of_find? found⟩
  · rintro ⟨⟨mem, owned⟩, rfl⟩
    exact ⟨find?_of_mem mem, owned⟩

/-- A user does not find an order of somebody else, nor one that is not there. -/
theorem findOwned?_eq_none (hidden : ∀ o ∈ l.own user, o.id ≠ id) :
    l.findOwned? user id = none := by
  rw [Option.eq_none_iff_forall_not_mem]
  intro o found
  obtain ⟨mem, same⟩ := findOwned?_eq_some_iff.mp found
  exact hidden o mem same

/-! ### Questions about own rows -/

section

variable (same : l.own user = l'.own user)

include same

theorem findOwned?_congr : l.findOwned? user id = l'.findOwned? user id := by
  refine Option.ext fun o => ?_
  rw [findOwned?_eq_some_iff, findOwned?_eq_some_iff, same]

/-- A query restricts the rows of the user. -/
theorem query_congr (q : OrderQuery) : l.query user q = l'.query user q := by
  have restricts (l : Ledger) : (l.rows.filter fun o => o.user == user && q.selects o)
      = (l.own user).filter q.selects := by
    rw [own, List.filter_filter]
    exact congrArg (l.rows.filter ·) (funext fun o => Bool.and_comm ..)
  unfold query
  rw [restricts, restricts, same]

/-- So does the question for filled orders. -/
theorem filledFor_congr (coin : String) : l.filledFor user coin = l'.filledFor user coin := by
  have restricts (l : Ledger) : (l.rows.filter fun o => o.user == user
        && o.baseCoin == some coin && o.status == OrderStatus.filled.name)
      = (l.own user).filter fun o =>
        o.baseCoin == some coin && o.status == OrderStatus.filled.name := by
    rw [own, List.filter_filter]
    refine congrArg (l.rows.filter ·) (funext fun o => ?_)
    rw [Bool.and_assoc, Bool.and_comm]
  unfold filledFor
  rw [restricts, restricts, same]

end

/-! ### Changes -/

/-- **A change that does not depend on a selection of rows** changes the selected ones. -/
theorem filter_update (p : Order → Bool) (kept : ∀ o, p (changed id change o) = p o) :
    (l.update id change).rows.filter p = (l.rows.filter p).map (changed id change) := by
  show (l.rows.map _).filter p = _
  rw [List.filter_map]
  exact congrArg (fun q => (l.rows.filter q).map _) (funext kept)

/-- A change that keeps the owner keeps it of every row. -/
theorem user_changed (kept : ∀ o, (change o).user = o.user) (o : Order) :
    (changed id change o).user = o.user := by
  unfold changed
  split
  · exact kept o
  · rfl

/-- The own rows after a change, wherever the changed row is. -/
theorem own_update (kept : ∀ o, (change o).user = o.user) :
    (l.update id change).own user = (l.own user).map (changed id change) :=
  filter_update _ fun o => by rw [user_changed kept]

/-- **The rows of others after a change** of an own row. -/
theorem others_update {o : Order} (kept : ∀ o, (change o).user = o.user)
    (owned : l.findOwned? user id = some o) : (l.update id change).others user = l.others user := by
  have apart : ∀ r ∈ l.others user, changed id change r = r := by
    intro r mem
    obtain ⟨mem, foreign⟩ := List.mem_filter.mp mem
    refine changed_other ?_
    rintro rfl
    obtain ⟨found, isOwn⟩ := Option.filter_eq_some_iff.mp owned
    obtain rfl := Option.some.inj ((find?_of_mem mem).symm.trans found)
    rw [bne, isOwn] at foreign
    cases foreign
  calc (l.update id change).others user
      = (l.others user).map (changed id change) :=
        filter_update _ fun o => by rw [user_changed kept]
    _ = l.others user := by rw [List.map_congr_left apart, List.map_id']

/-- A change takes no identifier and frees none. -/
theorem takes_update (other : String) : (l.update id change).Takes other ↔ l.Takes other := by
  show other ∈ (l.rows.map _).map _ ↔ other ∈ l.rows.map _
  rw [List.map_map]
  exact iff_of_eq (congrArg (other ∈ ·) (List.map_congr_left fun o _ => id_changed id change o))

/-- What is written takes its identifier. -/
theorem takes_of_rows {o : Order} (after : l'.rows = l.rows ++ [o]) (other : String) :
    l'.Takes other ↔ l.Takes other ∨ other = o.id := by
  unfold Takes
  rw [after, List.map_append, List.mem_append, List.map_singleton, List.mem_singleton]

/-- The own rows when a row was written. -/
theorem own_of_rows {rows : List Order} (after : l'.rows = l.rows ++ rows) :
    l'.own user = l.own user ++ rows.filter (·.user == user) := by
  rw [own, after, List.filter_append, own]

/-- **The rows of others when own rows were written.** -/
theorem others_of_rows {rows : List Order} (after : l'.rows = l.rows ++ rows)
    (owned : ∀ row ∈ rows, row.user = user) : l'.others user = l.others user := by
  have none : rows.filter (·.user != user) = [] := by
    rw [List.filter_eq_nil_iff]
    intro row mem
    rw [owned row mem, bne_self_eq_false]
    decide
  rw [others, after, List.filter_append, none, List.append_nil, others]

/-- No row is written under an identifier that is taken. -/
theorem insert?_of_takes {o : Order} (taken : l.Takes o.id) : l.insert? o = none :=
  dif_neg (not_not_intro taken)

/-- A row is written under any other identifier. -/
theorem insert?_of_not_takes {o : Order} (free : ¬ l.Takes o.id) :
    ∃ l', l.insert? o = some l' ∧ l'.rows = l.rows ++ [o] := by
  have inserted : l.insert? o = some _ := dif_pos free
  exact ⟨_, inserted, rows_of_insert? inserted⟩

end Ledger

/-! ## Stores -/

namespace Store

/-- The identifier that is given out as the `n`-th. -/
def idAt (n : Nat) : String := "id-" ++ Number.digitsText n

/-- **Two stores are alike for a user**, when `k` identifiers had been given out at some time
before: the user's rows are the same, and so are the supply of identifiers, the clock, and
what is planned to fail. -/
structure Alike (user : String) (k : Nat) (s t : Store) : Prop where
  own : s.ledger.own user = t.ledger.own user
  usedIds : s.usedIds = t.usedIds
  readings : s.readings = t.readings
  plan : s.plan = t.plan
  /-- No identifier is taken back. -/
  issued : k ≤ s.usedIds
  /-- Each identifier from then on is taken in both or in neither. -/
  supply : ∀ n, k < n → (s.ledger.Takes (idAt n) ↔ t.ledger.Takes (idAt n))

variable {user id : String} {k : Nat} {s t : Store}

/-- What was given out before a later time matters less then. -/
theorem Alike.mono {k' : Nat} (h : Alike user k s t) (later : k ≤ k') (issued : k' ≤ s.usedIds) :
    Alike user k' s t :=
  ⟨h.own, h.usedIds, h.readings, h.plan, issued, fun n more => h.supply n (Nat.lt_of_le_of_lt later more)⟩

/-! ### Questions -/

/-- **What the user asks of the store alone** is answered from own rows. -/
theorem Alike.orderOf_congr (h : Alike user k s t) (id : String) :
    s.orderOf user id = t.orderOf user id := by
  unfold orderOf
  rw [Ledger.findOwned?_congr h.own]

theorem Alike.ordersOf_congr (h : Alike user k s t) (f : OrderFilters) :
    s.ordersOf user f = t.ordersOf user f := by
  have asked (q : OrderQuery) : s.query user q = t.query user q := by
    unfold query
    rw [Ledger.query_congr h.own]
  unfold ordersOf
  simp only [asked]

theorem Alike.openOrdersOf_congr (h : Alike user k s t) : s.openOrdersOf user = t.openOrdersOf user :=
  Ledger.query_congr h.own _

theorem Alike.holdingsOf_congr (h : Alike user k s t) (coin : Coin Float) :
    s.holdingsOf user coin = t.holdingsOf user coin := by
  unfold holdingsOf
  rw [Ledger.filledFor_congr h.own]

/-! ### Parts of a write -/

/-- What only looks at the plan and changes it. -/
theorem respects_ofPlan {α : Type} (f : FailurePlan → Except Fault α × FailurePlan) :
    Respects (Alike user k)
      (fun s => ((f s.plan).1, { s with plan := (f s.plan).2 }) : StateM Store (Except Fault α)) :=
  fun _ _ h => ⟨congrArg (fun p => (f p).1) h.plan,
    ⟨h.own, h.usedIds, h.readings, congrArg (fun p => (f p).2) h.plan, h.issued, h.supply⟩⟩

theorem respects_beginTransaction : Respects (Alike user k) beginTransaction.run :=
  respects_ofPlan fun p => (orFail (meet p.transaction none).1,
    { p with transaction := (meet p.transaction none).2 })

theorem respects_meetOrder (type : Option String) : Respects (Alike user k) (meetOrder type).run :=
  respects_ofPlan fun p => (orFail (meet p.addOrder type).1,
    { p with addOrder := (meet p.addOrder type).2 })

theorem respects_meetIncident : Respects (Alike user k) meetIncident.run :=
  respects_ofPlan fun p => (orFail (meet p.createIncident none).1,
    { p with createIncident := (meet p.createIncident none).2 })

theorem respects_meetLink : Respects (Alike user k) meetLink.run :=
  respects_ofPlan fun p => (orFail (meet p.linkOrder none).1,
    { p with linkOrder := (meet p.linkOrder none).2 })

theorem respects_meetCommit : Respects (Alike user k) meetCommit.run :=
  respects_ofPlan fun p => (orFail (meet p.commit none).1,
    { p with commit := (meet p.commit none).2 })

theorem respects_newId : Respects (Alike user k) newId.run :=
  fun _ _ h => ⟨congrArg (fun n => Except.ok (idAt (n + 1))) h.usedIds,
    ⟨h.own, congrArg (· + 1) h.usedIds, h.readings, h.plan, Nat.le_succ_of_le h.issued,
      h.supply⟩⟩

theorem respects_now : Respects (Alike user k) now.run :=
  fun _ _ h => ⟨congrArg (fun n => Except.ok (Stamp.tick (n + 1))) h.readings,
    ⟨h.own, h.usedIds, congrArg (· + 1) h.readings, h.plan, h.issued, h.supply⟩⟩

theorem respects_timeOr (time : Option Stamp) : Respects (Alike user k) (timeOr time).run := by
  cases time with
  | some time => exact .answer time
  | none => exact respects_now

theorem respects_ofExcept {α : Type} (x : Except Fault α) :
    Respects (Alike user k) (ofExcept x).run :=
  .answerM x

/-- **A row under an identifier from the supply** is written in both stores or in neither. -/
theorem respects_insertRow (ticket : Ticket) {o : Order} {n : Nat} (new : k < n)
    (id : o.id = idAt n) : Respects (Alike user k) (insertRow ticket o).run := by
  intro s t h
  show (insertRow ticket o s).1 = (insertRow ticket o t).1
    ∧ Alike user k (insertRow ticket o s).2 (insertRow ticket o t).2
  have both : s.ledger.Takes o.id ↔ t.ledger.Takes o.id := id ▸ h.supply n new
  unfold insertRow
  by_cases taken : s.ledger.Takes o.id
  · rw [Ledger.insert?_of_takes taken, Ledger.insert?_of_takes (both.mp taken)]
    exact ⟨rfl, h⟩
  · obtain ⟨l, inserted, after⟩ := Ledger.insert?_of_not_takes taken
    obtain ⟨l', inserted', after'⟩ := Ledger.insert?_of_not_takes (mt both.mpr taken)
    rw [inserted, inserted']
    refine ⟨rfl, ⟨?_, h.usedIds, h.readings, h.plan, h.issued, fun m more => ?_⟩⟩
    · show l.own user = l'.own user
      rw [Ledger.own_of_rows after, Ledger.own_of_rows after', h.own]
    · show l.Takes _ ↔ l'.Takes _
      rw [Ledger.takes_of_rows after, Ledger.takes_of_rows after', h.supply m more]

/-- **An order without an identifier** gets one from the supply. -/
theorem respects_addOrder {ticket : Ticket} (unnamed : ticket.id = none) :
    Respects (Alike user k) (addOrder ticket).run := by
  unfold addOrder
  rw [unnamed]
  refine .seq (respects_meetOrder _) fun _ => .seqOf respects_newId fun id s t h given => ?_
  have given : idAt (s.usedIds + 1) = id := Except.ok.inj given
  refine .seq (respects_timeOr _) fun transactTime => .seq (respects_timeOr _) fun createdAt =>
    .seq (respects_timeOr _) fun updatedAt => .seqOf (respects_ofExcept _) fun row _ _ _ made => ?_
  obtain ⟨-, ⟨rowId, -⟩, -⟩ := Ticket.of_toOrder (Ticket.toOrder_of_row made)
  exact respects_insertRow _ (Nat.lt_succ_of_le h.issued) (rowId.trans given.symm)

theorem user_withLink (link : String) (time : Stamp) (o : Order) :
    (withLink link time o).user = o.user := rfl

theorem user_withStatus (status : String) (executed : Option Float) (time : Stamp) (o : Order) :
    (withStatus status executed time o).user = o.user := rfl

/-- **A row is changed in both stores**: it is the user's own in both, or in neither. -/
theorem Alike.update (h : Alike user k s t) (id : String) {change : Order → Order}
    (kept : ∀ o, (change o).user = o.user) :
    Alike user k { s with ledger := s.ledger.update id change }
      { t with ledger := t.ledger.update id change } := by
  refine ⟨?_, h.usedIds, h.readings, h.plan, h.issued, fun n new => ?_⟩
  · show (s.ledger.update id change).own user = (t.ledger.update id change).own user
    rw [Ledger.own_update kept, Ledger.own_update kept, h.own]
  · show (s.ledger.update id change).Takes (idAt n) ↔ (t.ledger.update id change).Takes (idAt n)
    rw [Ledger.takes_update, Ledger.takes_update, h.supply n new]

theorem respects_linkTo (id other : String) : Respects (Alike user k) (linkTo id other).run :=
  .seq respects_meetLink fun _ => .seq respects_now fun time =>
    .seq (.change fun _ _ h => h.update id (user_withLink other time)) fun _ => .answer time

/-- **The status of a row that was read** is set in both stores. -/
theorem respects_setRow (o : Order) (status : String) (executed : Option Float) :
    Respects (Alike user k) (setRow o status executed).run := by
  intro s t h
  have later : Alike user k { s with readings := t.readings + 1 }
      { t with readings := t.readings + 1 } :=
    ⟨h.own, h.usedIds, rfl, h.plan, h.issued, h.supply⟩
  show (setRow o status executed s).1 = (setRow o status executed t).1
    ∧ Alike user k (setRow o status executed s).2 (setRow o status executed t).2
  unfold setRow
  rw [h.readings]
  exact ⟨rfl, later.update o.id (user_withStatus status executed (Stamp.tick (t.readings + 1)))⟩

theorem respects_putIncident (report : IncidentReport) :
    Respects (Alike user k) (putIncident report).run :=
  .seq respects_newId fun _ => .seq respects_now fun _ =>
    .seq (.change fun _ _ h => ⟨h.own, h.usedIds, h.readings, h.plan, h.issued, h.supply⟩)
    fun _ => .answer _

/-! ### Transactions -/

/-- **What is taken back leaves stores alike**: the rows are as they were before. -/
theorem respects_atomically {α : Type} {body : StoreM α} (h : Respects (Alike user k) body.run) :
    Respects (Alike user k) (atomically body).run := by
  intro s t before
  have done : Agrees (Alike user k) (committed body).run s t :=
    (h s t before).seq fun a _ =>
      Respects.seq respects_meetCommit (fun _ => .answer a) _ _ (h s t before).2
  obtain ⟨r, s', t', (first : committed body s = _), (second : committed body t = _), after⟩ :=
    done.ran
  show (atomically body s).1 = (atomically body t).1
    ∧ Alike user k (atomically body s).2 (atomically body t).2
  unfold atomically
  rw [first, second]
  cases r with
  | ok a => exact ⟨rfl, after⟩
  | error e =>
    exact ⟨rfl, ⟨before.own, after.usedIds, after.readings, after.plan, after.issued,
      before.supply⟩⟩

/-- A transaction, whose body is run once it is begun. -/
theorem respects_transaction {α : Type} {body : StoreM α} (h : Respects (Alike user k) body.run) :
    Respects (Alike user k) (transaction body).run := by
  intro s t before
  obtain ⟨r, s', t', (first : beginTransaction s = _), (second : beginTransaction t = _), begun⟩ :=
    (respects_beginTransaction s t before).ran
  show (transaction body s).1 = (transaction body t).1
    ∧ Alike user k (transaction body s).2 (transaction body t).2
  unfold transaction
  rw [first, second]
  cases r with
  | ok _ => exact respects_atomically h s' t' begun
  | error e => exact ⟨rfl, begun⟩

theorem respects_updateRow (o : Order) (status : String) (executed : Option Float) :
    Respects (Alike user k) (updateRow o status executed).run :=
  respects_transaction (respects_setRow o status executed)

theorem respects_createIncident (report : IncidentReport) :
    Respects (Alike user k) (createIncident report).run :=
  .seq respects_meetIncident fun _ => respects_transaction (respects_putIncident report)

end Store

end OrderDesk

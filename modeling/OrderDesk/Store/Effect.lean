import OrderDesk.Run
import OrderDesk.Store.Basic

/-!
# What store operations leave behind

Each operation on the store touches few of its parts. The statements here say which, as
far as the ledger is concerned.
-/

namespace OrderDesk.Store

/-- Beginning a transaction changes the plan alone. -/
theorem ledger_beginTransaction (s : Store) : (beginTransaction s).2.ledger = s.ledger := rfl

/-- A commit changes the plan alone. -/
theorem ledger_meetCommit (s : Store) : (meetCommit s).2.ledger = s.ledger := rfl

/-- What a transaction leaves is what its body left. -/
theorem of_atomically {α : Type} {body : StoreM α} {s s' : Store} {a : α}
    (h : atomically body s = (.ok a, s')) :
    ∃ middle, body s = (.ok a, middle) ∧ s'.ledger = middle.ledger := by
  unfold atomically at h
  split at h
  · rename_i b after done
    cases h
    obtain ⟨c, middle, first, rest⟩ := Run.of_bind_ok done
    obtain ⟨_, last, met, ended⟩ := Run.of_bind_ok rest
    cases ended
    refine ⟨middle, first, ?_⟩
    rw [← ledger_meetCommit middle, met]
  · cases h

/-- **Setting the status of a row** changes this row, and nothing else in the ledger. -/
theorem ledger_updateRow {s s' : Store} {o : Order} {status : String} {executed : Option Float}
    {t : Ticket} (h : updateRow o status executed s = (.ok t, s')) :
    ∃ time, s'.ledger = s.ledger.update o.id (withStatus status executed time)
      ∧ t = ticketWithStatus status executed time o := by
  unfold updateRow transaction at h
  split at h
  · rename_i begun started
    have kept : begun.ledger = s.ledger := by
      have := ledger_beginTransaction s
      rwa [started] at this
    obtain ⟨middle, body, same⟩ := of_atomically h
    cases body
    exact ⟨_, by rw [same, kept], rfl⟩
  · cases h

/-! ## Rows that were just read -/

/-- What is made of the answer of a transaction can be made of it afterwards. -/
theorem transaction_map {α β : Type} (f : α → β) (body : StoreM α) (s : Store) :
    transaction (body >>= fun a => pure (f a)) s
      = ((transaction body s).1.map f, (transaction body s).2) := by
  have whole (begun : Store) : committed (body >>= fun a => pure (f a)) begun
      = ((committed body begun).1.map f, (committed body begun).2) := by
    unfold committed
    rw [Run.bind_apply, Run.map_apply, Run.bind_apply]
    rcases body begun with ⟨_ | a, middle⟩
    · rfl
    · dsimp only [Except.map]
      rw [Run.bind_apply, Run.bind_apply]
      rcases meetCommit middle with ⟨_ | _, _⟩ <;> rfl
  unfold transaction
  rcases beginTransaction s with ⟨_ | _, begun⟩
  · rfl
  · dsimp only
    unfold atomically
    rw [whole]
    rcases committed body begun with ⟨_ | _, after⟩ <;> rfl

/-- A transaction begins with the ledger as it is. -/
theorem transaction_congr {α : Type} {body body' : StoreM α} {s : Store}
    (same : ∀ begun : Store, begun.ledger = s.ledger → body begun = body' begun) :
    transaction body s = transaction body' s := by
  have first := same (beginTransaction s).2 (ledger_beginTransaction s)
  unfold transaction
  rcases started : beginTransaction s with ⟨_ | _, begun⟩
  · rfl
  · rw [started] at first
    dsimp only
    unfold atomically committed
    rw [Run.bind_apply, Run.bind_apply, first]

/-- **A row that was just read is found again**: its status is set as that of the order under its
identifier is. -/
theorem updateStatus_of_find? {s : Store} {id status : String} {executed : Option Float} {o : Order}
    (found : s.ledger.find? id = some o) :
    updateStatus id status executed s
      = ((updateRow o status executed s).1.map some, (updateRow o status executed s).2) := by
  rw [updateRow, ← transaction_map]
  refine transaction_congr fun begun kept => ?_
  show setStatus id status executed begun = _
  unfold setStatus
  rw [kept, found]

/-- The status of an order that is there is set when that of its row is. -/
theorem updateStatus_eq_some_iff {s u : Store} {id status : String} {executed : Option Float}
    {o : Order} {t : Ticket} (found : s.ledger.find? id = some o) :
    updateStatus id status executed s = (.ok (some t), u)
      ↔ updateRow o status executed s = (.ok t, u) := by
  rw [updateStatus_of_find? found]
  rcases updateRow o status executed s with ⟨_ | t', u'⟩ <;> constructor <;> intro h <;> cases h
    <;> rfl

end OrderDesk.Store

import OrderDesk.Order.Objection

/-!
# The ledger of orders

The ledger holds the rows of all orders in the order in which they were written. No
two rows share an identifier, and that is part of its type: a row is only added under a
new identifier, and a row that is changed keeps its own.
-/

namespace OrderDesk

/-- The rows of all orders. -/
structure Ledger where
  rows : List Order
  /-- No two rows share an identifier. -/
  distinct : (rows.map (·.id)).Nodup

namespace Ledger

/-- The ledger without rows. -/
def empty : Ledger := ⟨[], by simp⟩

instance : Inhabited Ledger := ⟨empty⟩

/-- The row with an identifier. -/
def find? (l : Ledger) (id : String) : Option Order := l.rows.find? (·.id == id)

/-- The row with an identifier, when it belongs to a user. -/
def findOwned? (l : Ledger) (user id : String) : Option Order :=
  (l.find? id).filter (·.user == user)

/-- The ledger with a row added; none when the identifier is taken. -/
def insert? (l : Ledger) (o : Order) : Option Ledger :=
  if fresh : o.id ∉ l.rows.map (·.id) then
    some ⟨l.rows ++ [o], by
      rw [List.map_append, List.nodup_append]
      refine ⟨l.distinct, by simp, ?_⟩
      intro a ha b hb
      simp only [List.map_cons, List.map_nil, List.mem_singleton] at hb
      rintro rfl
      exact fresh (hb ▸ ha)⟩
  else none

/-- A row after a change, under its own identifier. -/
def changed (id : String) (change : Order → Order) (o : Order) : Order :=
  if o.id == id then { change o with id := o.id } else o

theorem id_changed (id : String) (change : Order → Order) (o : Order) :
    (changed id change o).id = o.id := by
  unfold changed
  split <;> rfl

/-- The ledger with one row changed. -/
def update (l : Ledger) (id : String) (change : Order → Order) : Ledger :=
  ⟨l.rows.map (changed id change), by
    have same : (l.rows.map (changed id change)).map (·.id) = l.rows.map (·.id) := by
      rw [List.map_map]
      exact List.map_congr_left fun o _ => id_changed id change o
    rw [same]
    exact l.distinct⟩

/-- How many orders can still be canceled. -/
def openCount (l : Ledger) : Nat := l.rows.countP Order.isOpen

/-- A row that is found has the identifier it was looked for under. -/
theorem id_of_find? {l : Ledger} {id : String} {o : Order} (h : l.find? id = some o) :
    o.id = id := by
  simpa using List.find?_some h

/-- A row that is found is in the ledger. -/
theorem mem_of_find? {l : Ledger} {id : String} {o : Order} (h : l.find? id = some o) :
    o ∈ l.rows := List.mem_of_find?_eq_some h

/-- A row is found under its identifier. -/
theorem find?_of_mem {l : Ledger} {o : Order} (h : o ∈ l.rows) : l.find? o.id = some o := by
  obtain ⟨rows, distinct⟩ := l
  unfold find?
  dsimp only at h ⊢
  induction rows with
  | nil => simp at h
  | cons a rest ih =>
    simp only [List.map_cons, List.nodup_cons] at distinct
    rcases List.mem_cons.mp h with rfl | later
    · simp
    · have other : (a.id == o.id) = false := by
        simp only [beq_eq_false_iff_ne, ne_eq]
        intro same
        exact distinct.1 (same ▸ List.mem_map.mpr ⟨o, later, rfl⟩)
      rw [List.find?_cons, other]
      exact ih distinct.2 later

/-- What an insertion leaves: the old rows and the new one. -/
theorem rows_of_insert? {l l' : Ledger} {o : Order} (h : l.insert? o = some l') :
    l'.rows = l.rows ++ [o] := by
  unfold insert? at h
  split at h
  · cases h; rfl
  · cases h

/-- Closing an open order leaves fewer open ones, provided that the change opens no
order and closes this one. -/
theorem openCount_update_lt {l : Ledger} {o : Order} {change : Order → Order}
    (mem : o ∈ l.rows) (wasOpen : o.isOpen = true)
    (closes : ∀ r : Order, (Ledger.changed o.id change r).isOpen = true → r.isOpen = true)
    (closed : (Ledger.changed o.id change o).isOpen = false) :
    (l.update o.id change).openCount < l.openCount := by
  unfold openCount update
  dsimp only
  rw [List.countP_map]
  have le : ∀ rows : List Order,
      rows.countP (Order.isOpen ∘ changed o.id change) ≤ rows.countP Order.isOpen := by
    intro rows
    exact List.countP_mono_left fun r _ hr => closes r hr
  obtain ⟨before, after, split⟩ := List.append_of_mem mem
  rw [split]
  simp only [List.countP_append, List.countP_cons, Function.comp_apply, closed, wasOpen]
  have hb := le before
  have ha := le after
  simp only [Bool.false_eq_true, ↓reduceIte, Nat.add_zero] at *
  omega

end Ledger

end OrderDesk

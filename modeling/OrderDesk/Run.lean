/-!
# Running an operation at a state

Almost everything the desk does is an operation that may fail and that leaves a state
either way. What such an operation does is decided by what its first part does: when
that fails, the rest is not run and the state is as the first part left it.
-/

namespace OrderDesk.Run

variable {ε σ α β : Type}

/-- Two operations one after the other that cannot fail. -/
theorem bindM_apply (x : StateM σ α) (f : α → StateM σ β) (s : σ) :
    (x >>= f) s = f (x s).1 (x s).2 := rfl

/-- **Two operations one after the other.** -/
theorem bind_apply (x : ExceptT ε (StateM σ) α) (f : α → ExceptT ε (StateM σ) β) (s : σ) :
    (x >>= f) s = match x s with
      | (.ok a, t) => f a t
      | (.error e, t) => (.error e, t) := by
  show (match x s with | (r, t) => ExceptT.bindCont f r t) = _
  rcases x s with ⟨_ | _, _⟩ <;> rfl

/-- What is done with the state that is looked at. -/
theorem get_bind (f : σ → ExceptT ε (StateM σ) β) (s : σ) : (get >>= f) s = f s s := by
  rw [bind_apply]
  rfl

/-- What is done with the answer of an operation that cannot fail. -/
theorem lift_bind (x : StateM σ α) (f : α → ExceptT ε (StateM σ) β) (s : σ) :
    ((liftM x : ExceptT ε (StateM σ) α) >>= f) s = f (x s).1 (x s).2 := by
  rw [bind_apply]
  rfl

/-- The answer of an operation that is passed through a function. -/
theorem map_apply (x : ExceptT ε (StateM σ) α) (g : α → β) (s : σ) :
    (x >>= fun a => pure (g a)) s = ((x s).1.map g, (x s).2) := by
  rw [bind_apply]
  rcases x s with ⟨_ | _, _⟩ <;> rfl

/-- How two operations end, by how the first one ends. -/
theorem of_bind {x : ExceptT ε (StateM σ) α} {f : α → ExceptT ε (StateM σ) β} {s u : σ}
    {r : Except ε β} (h : (x >>= f) s = (r, u)) :
    (∃ e, x s = (.error e, u) ∧ r = .error e) ∨ ∃ a t, x s = (.ok a, t) ∧ f a t = (r, u) := by
  rw [bind_apply] at h
  rcases first : x s with ⟨e | a, t⟩ <;> rw [first] at h
  · cases h
    exact .inl ⟨e, rfl, rfl⟩
  · exact .inr ⟨a, t, rfl, h⟩

/-- Two operations succeed when both do. -/
theorem of_bind_ok {x : ExceptT ε (StateM σ) α} {f : α → ExceptT ε (StateM σ) β} {s u : σ}
    {b : β} (h : (x >>= f) s = (.ok b, u)) :
    ∃ a t, x s = (.ok a, t) ∧ f a t = (.ok b, u) := by
  rcases of_bind h with ⟨e, -, wrong⟩ | found
  · cases wrong
  · exact found

/-- Two checks succeed when both do. -/
theorem ok_of_bind {x : Except ε α} {f : α → Except ε β} {b : β} (h : x >>= f = .ok b) :
    ∃ a, x = .ok a ∧ f a = .ok b := by
  cases x with
  | error e => cases h
  | ok a => exact ⟨a, rfl, h⟩

/-- A check that succeeded is passed over. -/
theorem bind_of_ok {x : Except ε α} {f : α → Except ε β} {a : α} {r : Except ε β}
    (first : x = .ok a) (rest : f a = r) : x >>= f = r := by
  rw [first]
  exact rest

end OrderDesk.Run

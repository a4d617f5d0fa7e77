import Mathlib.Order.Defs.Unbundled
import OrderDesk.Run

/-!
# What every run of an operation keeps

Much of what can be said about an operation is said of the state before it and the state
after it alone: that nothing was written, that a list only grew, that an invariant still
holds. Such a relation is kept by a sequence of operations as soon as each of them keeps
it, whatever they answer and wherever the sequence breaks off. `Keeps` is that notion, for
any relation that is reflexive and transitive. `FailsWith` says of an operation how it may
fail, and goes through a sequence in the same way.
-/

namespace OrderDesk

/-- Every run of an operation relates the state before it to the state after it. -/
def Keeps {σ β : Type} (R : σ → σ → Prop) (x : StateM σ β) : Prop := ∀ s, R s (x s).2

namespace Keeps

variable {ε ε' σ α β : Type} {R : σ → σ → Prop}

/-! ## Operations that cannot fail -/

/-- Making a change keeps what the change keeps. -/
theorem changeM {f : σ → σ} (h : ∀ s, R s (f s)) : Keeps R (modify f : StateM σ Unit) := h

/-- Looking at the state keeps everything. -/
theorem lookM [Std.Refl R] : Keeps R (get : StateM σ σ) := fun s => Std.Refl.refl s

/-- An answer keeps everything. -/
theorem answerM [Std.Refl R] (b : β) : Keeps R (pure b : StateM σ β) :=
  fun s => Std.Refl.refl s

/-- **A sequence keeps what its parts keep.** -/
theorem seqM [IsTrans σ R] {x : StateM σ α} {f : α → StateM σ β} (hx : Keeps R x)
    (hf : ∀ a, Keeps R (f a)) : Keeps R (x >>= f) :=
  fun s => IsTrans.trans _ _ _ (hx s) (hf (x s).1 (x s).2)

/-- **An attempt** and what follows it, when it succeeded and when it failed. -/
theorem triedM [IsTrans σ R] {x : StateM σ (Except ε' α)} {f : Except ε' α → StateM σ β}
    (hx : Keeps R x) (ok : ∀ a, Keeps R (f (.ok a))) (error : ∀ e, Keeps R (f (.error e))) :
    Keeps R (x >>= f) := by
  refine seqM hx fun outcome => ?_
  cases outcome with
  | ok a => exact ok a
  | error e => exact error e

/-! ## Operations that may fail -/

/-- Making a change keeps what the change keeps. -/
theorem change {f : σ → σ} (h : ∀ s, R s (f s)) :
    Keeps R (modify f : ExceptT ε (StateM σ) Unit).run := h

/-- Looking at the state keeps everything. -/
theorem look [Std.Refl R] : Keeps R (get : ExceptT ε (StateM σ) σ).run :=
  fun s => Std.Refl.refl s

/-- An answer keeps everything. -/
theorem answer [Std.Refl R] (a : α) : Keeps R (pure a : ExceptT ε (StateM σ) α).run :=
  fun s => Std.Refl.refl s

/-- A failure keeps everything. -/
theorem fail [Std.Refl R] (e : ε) : Keeps R (throw e : ExceptT ε (StateM σ) α).run :=
  fun s => Std.Refl.refl s

/-- An operation that cannot fail keeps the same among those that may. -/
theorem lift {x : StateM σ α} (h : Keeps R x) :
    Keeps R (liftM x : ExceptT ε (StateM σ) α).run := h

/-- A sequence at one state keeps what its first part keeps there and its second part keeps
for the answer of the first. -/
theorem seqAt [IsTrans σ R] {x : ExceptT ε (StateM σ) α} {f : α → ExceptT ε (StateM σ) β} {s : σ}
    (hx : R s (x s).2) (hf : ∀ a t, x s = (.ok a, t) → Keeps R (f a).run) :
    R s ((x >>= f) s).2 := by
  rw [Run.bind_apply]
  rcases ran : x s with ⟨e | a, t⟩ <;> rw [ran] at hx
  · exact hx
  · exact IsTrans.trans _ _ _ hx (hf a t ran t)

/-- A sequence whose second part keeps it for the answers that the first part can give. -/
theorem seqOf [IsTrans σ R] {x : ExceptT ε (StateM σ) α} {f : α → ExceptT ε (StateM σ) β}
    (hx : Keeps R x.run) (hf : ∀ s a t, x s = (.ok a, t) → Keeps R (f a).run) :
    Keeps R (x >>= f).run :=
  fun s => seqAt (hx s) (hf s)

/-- **A sequence keeps what its parts keep**, also when it breaks off. -/
theorem seq [IsTrans σ R] {x : ExceptT ε (StateM σ) α} {f : α → ExceptT ε (StateM σ) β}
    (hx : Keeps R x.run) (hf : ∀ a, Keeps R (f a).run) : Keeps R (x >>= f).run :=
  seqOf hx fun _ a _ _ => hf a

/-- **An attempt** and what follows it, when it succeeded and when it failed. -/
theorem tried [IsTrans σ R] {x : StateM σ (Except ε' α)}
    {f : Except ε' α → ExceptT ε (StateM σ) β} (hx : Keeps R x)
    (ok : ∀ a, Keeps R (f (.ok a)).run) (error : ∀ e, Keeps R (f (.error e)).run) :
    Keeps R (liftM x >>= f : ExceptT ε (StateM σ) β).run := by
  refine seq (lift hx) fun outcome => ?_
  cases outcome with
  | ok a => exact ok a
  | error e => exact error e

/-- **How a sequence ends** whose first part keeps a relation. -/
theorem of_bind {x : ExceptT ε (StateM σ) α} {f : α → ExceptT ε (StateM σ) β} {s u : σ}
    {r : Except ε β} (hx : Keeps R x.run) (h : (x >>= f) s = (r, u)) :
    (∃ e, x s = (.error e, u) ∧ r = .error e ∧ R s u)
    ∨ ∃ a t, x s = (.ok a, t) ∧ R s t ∧ f a t = (r, u) := by
  have first : R s (x s).2 := hx s
  rcases Run.of_bind h with ⟨e, failed, rfl⟩ | ⟨a, t, ran, rest⟩
  · rw [failed] at first
    exact .inl ⟨e, failed, rfl, first⟩
  · rw [ran] at first
    exact .inr ⟨a, t, ran, first, rest⟩

/-- An answer that is passed through a function keeps the same. -/
theorem map {x : ExceptT ε (StateM σ) α} (g : α → β) [IsPreorder σ R] (hx : Keeps R x.run) :
    Keeps R (g <$> x).run :=
  seq hx fun a => answer (g a)

/-- **The same operation on each of several values** keeps what it keeps on each. -/
theorem each [IsPreorder σ R] {f : α → ExceptT ε (StateM σ) β} {as : List α}
    (h : ∀ a ∈ as, Keeps R (f a).run) : Keeps R (as.mapM f).run := by
  induction as with
  | nil =>
    rw [List.mapM_nil]
    exact answer []
  | cons a rest ih =>
    rw [List.mapM_cons]
    refine seq (h a (List.mem_cons_self ..)) fun b => seq (ih fun c mem => ?_) fun bs => ?_
    · exact h c (List.mem_cons_of_mem _ mem)
    · exact answer (b :: bs)

end Keeps

/-! ## Kinds of failures -/

/-- Every failure of an operation is of a kind. -/
def FailsWith {ε σ α : Type} (E : ε → Prop) (x : ExceptT ε (StateM σ) α) : Prop :=
  ∀ s e t, x s = (.error e, t) → E e

namespace FailsWith

variable {ε σ α β : Type} {E : ε → Prop}

/-- What only answers does not fail. -/
theorem answer (a : α) : FailsWith E (pure a : ExceptT ε (StateM σ) α) := by
  intro s e t h
  cases h

/-- What cannot fail does not fail among operations that may. -/
theorem lift (x : StateM σ α) : FailsWith E (liftM x : ExceptT ε (StateM σ) α) := by
  intro s e t h
  cases h

/-- A failure is of its own kind. -/
theorem fail {e : ε} (h : E e) : FailsWith E (throw e : ExceptT ε (StateM σ) α) := by
  intro s e' t thrown
  cases thrown
  exact h

/-- **A sequence fails as its parts do.** -/
theorem seq {x : ExceptT ε (StateM σ) α} {f : α → ExceptT ε (StateM σ) β}
    (hx : FailsWith E x) (hf : ∀ a, FailsWith E (f a)) : FailsWith E (x >>= f) := by
  intro s e u h
  rcases Run.of_bind h with ⟨e', first, same⟩ | ⟨a, t, -, second⟩
  · cases same
    exact hx s e u first
  · exact hf a t e u second

end FailsWith

end OrderDesk

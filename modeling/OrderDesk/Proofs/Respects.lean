import OrderDesk.Run

/-!
# Two runs that cannot be told apart

That an operation depends on some part of the state only is a statement about two of its
runs: from two states that are alike in that part, it gives the same answer and leaves
states that are alike again. An operation that does so from all such states *respects* the
likeness, and a sequence of operations respects what its parts respect: since the first part
gives the same answer in both runs, both go on with the same second part.

What an operation is given to look at is different. The two states are not the same, so what
follows a look at the state has to be the same for both of them.
-/

namespace OrderDesk

variable {ε σ α β : Type}

/-- **An operation does the same at two states**: it answers the same, and the states that
it leaves are alike. -/
def Agrees (R : σ → σ → Prop) (x : StateM σ α) (s t : σ) : Prop :=
  (x s).1 = (x t).1 ∧ R (x s).2 (x t).2

/-- **An operation respects a likeness** when it does the same at states that are alike. -/
def Respects (R : σ → σ → Prop) (x : StateM σ α) : Prop := ∀ s t, R s t → Agrees R x s t

namespace Agrees

variable {R : σ → σ → Prop} {s t : σ}

/-- What both runs do. -/
theorem ran {x : StateM σ α} (h : Agrees R x s t) :
    ∃ r s' t', x s = (r, s') ∧ x t = (r, t') ∧ R s' t' :=
  ⟨(x s).1, (x s).2, (x t).2, rfl, Prod.ext h.1.symm rfl, h.2⟩

/-- **Two operations one after the other.** The second one matters only when the first
succeeds, and then at the states that the first one leaves. -/
theorem seq {x : ExceptT ε (StateM σ) α} {f : α → ExceptT ε (StateM σ) β}
    (hx : Agrees R x.run s t)
    (hf : ∀ a, (x s).1 = .ok a → Agrees R (f a).run (x s).2 (x t).2) :
    Agrees R (x >>= f).run s t := by
  obtain ⟨r, s', t', (first : x s = _), (second : x t = _), alike⟩ := hx.ran
  show ((x >>= f) s).1 = ((x >>= f) t).1 ∧ R ((x >>= f) s).2 ((x >>= f) t).2
  rw [Run.bind_apply, Run.bind_apply, first, second]
  cases r with
  | error e => exact ⟨rfl, alike⟩
  | ok a =>
    have rest := hf a (congrArg Prod.fst first)
    rwa [first, second] at rest

end Agrees

namespace Respects

variable {R : σ → σ → Prop}

/-! ## Operations that cannot fail -/

theorem answerM (b : β) : Respects R (pure b : StateM σ β) := fun _ _ alike => ⟨rfl, alike⟩

/-- **A sequence respects what its parts respect.** -/
theorem seqM {x : StateM σ α} {f : α → StateM σ β} (hx : Respects R x)
    (hf : ∀ a, Respects R (f a)) : Respects R (x >>= f) := by
  intro s t alike
  obtain ⟨a, s', t', first, second, alike'⟩ := (hx s t alike).ran
  show (f (x s).1 (x s).2).1 = (f (x t).1 (x t).2).1 ∧ R (f (x s).1 (x s).2).2 (f (x t).1 (x t).2).2
  rw [first, second]
  exact hf a s' t' alike'

/-- **What follows a look at the state** has to be the same for states that are alike. -/
theorem lookM {f : σ → StateM σ β} (same : ∀ s t, R s t → f s = f t)
    (hf : ∀ s, Respects R (f s)) : Respects R (get >>= f) := by
  intro s t alike
  show (f s s).1 = (f t t).1 ∧ R (f s s).2 (f t t).2
  rw [← same s t alike]
  exact hf s s t alike

/-! ## Operations that may fail -/

theorem answer (a : α) : Respects R (pure a : ExceptT ε (StateM σ) α).run :=
  fun _ _ alike => ⟨rfl, alike⟩

theorem fail (e : ε) : Respects R (throw e : ExceptT ε (StateM σ) α).run :=
  fun _ _ alike => ⟨rfl, alike⟩

/-- A change that is made to both states. -/
theorem change {f : σ → σ} (h : ∀ s t, R s t → R (f s) (f t)) :
    Respects R (modify f : ExceptT ε (StateM σ) Unit).run := fun s t alike => ⟨rfl, h s t alike⟩

/-- An operation that cannot fail respects the same among those that may. -/
theorem lift {x : StateM σ α} (h : Respects R x) :
    Respects R (liftM x : ExceptT ε (StateM σ) α).run :=
  fun s t alike => ⟨congrArg Except.ok (h s t alike).1, (h s t alike).2⟩

/-- **A sequence respects what its parts respect**, also when it breaks off. What comes
second has to do so only for an answer that the first part can give. -/
theorem seqOf {x : ExceptT ε (StateM σ) α} {f : α → ExceptT ε (StateM σ) β}
    (hx : Respects R x.run)
    (hf : ∀ a s t, R s t → (x s).1 = .ok a → Respects R (f a).run) :
    Respects R (x >>= f).run :=
  fun s t alike => .seq (hx s t alike) fun a ok => hf a s t alike ok _ _ (hx s t alike).2

/-- The same when nothing has to be known about the answer. -/
theorem seq {x : ExceptT ε (StateM σ) α} {f : α → ExceptT ε (StateM σ) β}
    (hx : Respects R x.run) (hf : ∀ a, Respects R (f a).run) : Respects R (x >>= f).run :=
  seqOf hx fun a _ _ _ _ => hf a

/-- **What follows a look at the state** has to be the same for states that are alike. -/
theorem look {f : σ → ExceptT ε (StateM σ) β} (same : ∀ s t, R s t → f s = f t)
    (hf : ∀ s, Respects R (f s).run) : Respects R (get >>= f).run := by
  intro s t alike
  show ((get >>= f) s).1 = ((get >>= f) t).1 ∧ R ((get >>= f) s).2 ((get >>= f) t).2
  rw [Run.get_bind, Run.get_bind, ← same s t alike]
  exact hf s s t alike

end Respects

end OrderDesk

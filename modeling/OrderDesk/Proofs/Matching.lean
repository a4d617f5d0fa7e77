import Mathlib.Order.Defs.Unbundled
import OrderDesk.Proofs.Respects

/-!
# Two runs that may differ in some places

`Respects` compares two runs of one operation that answer the same. When what is to be
left out of sight also passes through the answers, the two runs soon do different things:
the second half of a sequence is given one answer in the first run and another one in the
second. So here two operations are compared, and their answers are related, not equal:
`Matches R A x y` says that from states related by `R` the answers are related by `A` and
the states that are left are related by `R` again.

A sequence matches another one when its parts match in order, and what comes second may
use that it was given related answers. Two operations that fail mostly fail in the same way,
and then their ends are said to be alike; where what is left out of sight shows in the words
of a failure, a relation between failures is given too. An operation that respects `R` is the
case in which the two operations, their failures and their answers are the same.
-/

namespace OrderDesk

variable {ε σ α β : Type}

/-- **Two operations end in related ways**: with related failures, or with related answers. -/
inductive Ends (E : ε → ε → Prop) (A : α → α → Prop) : Except ε α → Except ε α → Prop where
  | ok {a b : α} (related : A a b) : Ends E A (.ok a) (.ok b)
  | error {e f : ε} (related : E e f) : Ends E A (.error e) (.error f)

/-- **Two operations end alike**: with the same failure, or with related answers. -/
abbrev EndAlike (A : α → α → Prop) : Except ε α → Except ε α → Prop := Ends Eq A

namespace Ends

variable {E : ε → ε → Prop} {A : α → α → Prop} {x y : Except ε α}

/-- Ends that are the same. -/
theorem of_eq [Std.Refl E] [Std.Refl A] (same : x = y) : Ends E A x y := by
  subst same
  cases x with
  | error e => exact .error (Std.Refl.refl e)
  | ok a => exact .ok (Std.Refl.refl a)

/-- Ends are the same when failures and answers are related only to themselves. -/
theorem eq (h : Ends Eq Eq x y) : x = y := by
  cases h with
  | ok related => rw [related]
  | error related => rw [related]

/-- Ends are alike when they are the same after their answers are passed on. -/
theorem of_map_eq [Std.Refl E] {g : α → β} (same : x.map g = y.map g) :
    Ends E (fun a b => g a = g b) x y := by
  cases x with
  | error e =>
    cases y with
    | error e' =>
      cases same
      exact .error (Std.Refl.refl e)
    | ok b => cases same
  | ok a =>
    cases y with
    | error e' => cases same
    | ok b => exact .ok (Except.ok.inj same)

/-- **What is the same of related answers** is the same of the ends. -/
theorem map_eq {g : α → β} (same : ∀ a b, A a b → g a = g b) (h : Ends Eq A x y) :
    x.map g = y.map g := by
  cases h with
  | ok related => exact congrArg Except.ok (same _ _ related)
  | error related => exact congrArg Except.error related

/-- Failures that are put into other words. -/
theorem mapError {ε' : Type} {E' : ε' → ε' → Prop} {f g : ε → ε'} (h : Ends Eq A x y)
    (related : ∀ e, E' (f e) (g e)) : Ends E' A (x.mapError f) (y.mapError g) := by
  cases h with
  | ok same => exact .ok same
  | error same =>
    subst same
    exact .error (related _)

end Ends

/-- **Two operations tally at two states**: their answers are related, and so are the states
that they leave. -/
def Tallies (R : σ → σ → Prop) (A : α → α → Prop) (x y : StateM σ α) (s t : σ) : Prop :=
  A (x s).1 (y t).1 ∧ R (x s).2 (y t).2

/-- **Two operations match** when they tally at all states that are related. -/
def Matches (R : σ → σ → Prop) (A : α → α → Prop) (x y : StateM σ α) : Prop :=
  ∀ s t, R s t → Tallies R A x y s t

namespace Tallies

variable {R : σ → σ → Prop} {E : ε → ε → Prop} {A : α → α → Prop} {B : β → β → Prop} {s t : σ}

/-- **Two operations that may fail, one after the other.** The second ones matter only when
both of the first succeed, and then at the states that these leave. -/
theorem seq {x y : ExceptT ε (StateM σ) α} {f g : α → ExceptT ε (StateM σ) β}
    (first : Tallies R (Ends E A) x.run y.run s t)
    (second : ∀ a b, (x s).1 = .ok a → (y t).1 = .ok b → A a b →
      Tallies R (Ends E B) (f a).run (g b).run (x s).2 (y t).2) :
    Tallies R (Ends E B) (x >>= f).run (y >>= g).run s t := by
  obtain ⟨ends, left⟩ := first
  show Ends E B ((x >>= f) s).1 ((y >>= g) t).1 ∧ R ((x >>= f) s).2 ((y >>= g) t).2
  rw [Run.bind_apply, Run.bind_apply]
  rcases ran : x s with ⟨r, s'⟩
  rcases ran' : y t with ⟨r', t'⟩
  rw [ran, ran'] at second
  replace ends : Ends E A (x s).1 (y t).1 := ends
  replace left : R (x s).2 (y t).2 := left
  rw [ran, ran'] at ends left
  cases ends with
  | error related => exact ⟨.error related, left⟩
  | ok related => exact second _ _ rfl rfl related

end Tallies

namespace Matches

variable {R : σ → σ → Prop} {E : ε → ε → Prop} {A : α → α → Prop} {B : β → β → Prop}

/-! ## Operations that cannot fail -/

theorem answerM {a b : α} (related : A a b) :
    Matches R A (pure a : StateM σ α) (pure b) :=
  fun _ _ h => ⟨related, h⟩

/-- **Sequences match when their parts do.** -/
theorem seqM {x y : StateM σ α} {f g : α → StateM σ β} (hx : Matches R A x y)
    (hf : ∀ a b, A a b → Matches R B (f a) (g b)) : Matches R B (x >>= f) (y >>= g) :=
  fun s t h => hf _ _ (hx s t h).1 _ _ (hx s t h).2

/-! ## Operations that may fail -/

theorem answer {a b : α} (related : A a b) :
    Matches R (Ends E A) (pure a : ExceptT ε (StateM σ) α).run (pure b : ExceptT ε _ α).run :=
  fun _ _ h => ⟨.ok related, h⟩

theorem fail {e f : ε} (related : E e f) :
    Matches R (Ends E A) (throw e : ExceptT ε (StateM σ) α).run
      (throw f : ExceptT ε (StateM σ) α).run :=
  fun _ _ h => ⟨.error related, h⟩

/-- An operation that respects a likeness matches itself. -/
theorem ofRespects [Std.Refl E] {x : ExceptT ε (StateM σ) α} (h : Respects R x.run) :
    Matches R (Ends E Eq) x.run x.run :=
  fun s t related => ⟨.of_eq (h s t related).1, (h s t related).2⟩

/-- Operations that cannot fail match among those that may. -/
theorem lift {x y : StateM σ α} (h : Matches R A x y) :
    Matches R (Ends E A) (liftM x : ExceptT ε (StateM σ) α).run
      (liftM y : ExceptT ε (StateM σ) α).run :=
  fun s t related => ⟨.ok (h s t related).1, (h s t related).2⟩

/-- **Sequences match when their parts do**, also when they break off. -/
theorem seq {x y : ExceptT ε (StateM σ) α} {f g : α → ExceptT ε (StateM σ) β}
    (hx : Matches R (Ends E A) x.run y.run)
    (hf : ∀ a b, A a b → Matches R (Ends E B) (f a).run (g b).run) :
    Matches R (Ends E B) (x >>= f).run (y >>= g).run :=
  fun s t h => .seq (hx s t h) fun a b _ _ related => hf a b related _ _ (hx s t h).2

/-- Sequences whose first part is the same for both. -/
theorem after [Std.Refl E] {x : ExceptT ε (StateM σ) α} {f g : α → ExceptT ε (StateM σ) β}
    (hx : Respects R x.run) (hf : ∀ a, Matches R (Ends E B) (f a).run (g a).run) :
    Matches R (Ends E B) (x >>= f).run (x >>= g).run := by
  refine .seq (.ofRespects hx) fun a b same => ?_
  subst same
  exact hf a

/-- **What follows a look at the state** has to be the same for states that are related. -/
theorem look {f : σ → ExceptT ε (StateM σ) β} (same : ∀ s t, R s t → f s = f t)
    (hf : ∀ s, Matches R (Ends E B) (f s).run (f s).run) :
    Matches R (Ends E B) (get >>= f).run (get >>= f).run := by
  intro s t h
  show Ends E B ((get >>= f) s).1 ((get >>= f) t).1 ∧ R ((get >>= f) s).2 ((get >>= f) t).2
  rw [Run.get_bind, Run.get_bind, ← same s t h]
  exact hf s s t h

/-- An operation respects a likeness when it matches itself with the same answers. -/
theorem respects {x : ExceptT ε (StateM σ) α} (h : Matches R (EndAlike Eq) x.run x.run) :
    Respects R x.run :=
  fun s t related => ⟨(h s t related).1.eq, (h s t related).2⟩

end Matches

end OrderDesk

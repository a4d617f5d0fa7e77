import OrderDesk.Desk.Protection
import OrderDesk.Proofs.Commands

/-!
# What a venue hears

The journal of a floor has every call to a venue, in the order of the calls. A submission that
can be put into the venue's words is one entry in it, whatever the venue answers and whatever
is done with the answer: writing it down, escalating it, or linking rows is not heard by a
venue (`Unheard`).
-/

namespace OrderDesk

namespace Session

/-- **The venue hears nothing** between two states of a session. -/
def Unheard (s t : Session) : Prop := t.journal = s.journal

instance : IsPreorder Session Unheard where
  refl _ := rfl
  trans _ _ _ h k := Eq.trans k h

end Session

namespace Line

open Session (Unheard)

theorem unheard_ensureUp (m : VenueMethod) : Keeps Unheard (ensureUp m).run := by
  refine .seq .look fun s => ?_
  cases s.venue.outage? m with
  | none => exact .answer ()
  | some reason => exact .fail _

theorem unheard_takeOrderAnswer : Keeps Unheard takeOrderAnswer.run := by
  intro s
  show Unheard s (takeOrderAnswer s).2
  unfold takeOrderAnswer
  rw [Run.get_bind]
  rcases s.venue.answerOrder with ⟨_ | _, _⟩ <;> rfl

/-- A bare submission is one call: what comes after it only waits for the answer. -/
theorem journal_createOrder (order : Submission) (s : Session) :
    (createOrder order s).2.journal = s.journal ++ [.submitted s.slug order] := by
  have waits : Keeps Unheard (do
      ensureUp .createOrder
      let answer ← takeOrderAnswer
      modify (·.accept order answer)
      return answer : Line Payload).run :=
    .seq (unheard_ensureUp _) fun _ => .seq unheard_takeOrderAnswer fun _ =>
      .seq (.change fun _ => rfl) fun _ => .answer _
  exact waits ((s.record (.createOrder order)).countSubmission)

/-- What was read is handed on. -/
theorem ofExcept_bind {α β : Type} (a : α) (f : α → Line β) (s : Session) :
    (ofExcept (.ok a) >>= f) s = f a s := by
  rw [Run.bind_apply]
  rfl

/-- **A submission that can be put into the venue's words** is one call, whatever comes of it. -/
theorem journal_submit {i : Instruction} {s : Session} {order : Submission}
    (shaped : i.shape s.slug = .ok order) :
    (submit i s).2.journal = s.journal ++ [.submitted s.slug order] := by
  have called := journal_createOrder order s
  unfold submit
  rw [Run.get_bind, shaped, ofExcept_bind, Run.bind_apply]
  rcases ran : createOrder order s with ⟨_ | answer, t⟩ <;> rw [ran] at called <;> exact called

end Line

namespace Floor

/-- The calls of an exchange are those of the session. -/
theorem journal_trySpeak {α : Type} (ctx : Context) (x : Line α) (f : Floor) :
    (trySpeak ctx x f).2.journal = (x (f.session ctx.slug ctx.user)).2.journal := rfl

/-- The submission of a leg is one call. -/
theorem journal_submit {ctx : Context} {leg : Leg} {order : Submission}
    (shaped : (leg.instruction ctx.symbol).shape ctx.slug = .ok order) (operation : String)
    (f : Floor) :
    (submit ctx leg operation f).2.journal = f.journal ++ [.submitted ctx.slug order] := by
  have called := Line.journal_submit (s := f.session ctx.slug ctx.user) shaped
  rw [← journal_trySpeak ctx] at called
  unfold submit
  rw [Run.lift_bind]
  cases (trySpeak ctx (Line.submit (leg.instruction ctx.symbol)) f).1 <;> exact called

end Floor

namespace Desk

/-- **The venues hear nothing** between two states of the desk. -/
def Unheard (d d' : Desk) : Prop := d'.floor.journal = d.floor.journal

instance : IsPreorder Desk Unheard where
  refl _ := rfl
  trans _ _ _ h k := Eq.trans k h

section

variable {α : Type} {ctx : Context} {leg : Leg} {order : Submission} {d d' : Desk}

theorem unheard_tryStore (x : StoreM α) : Keeps Unheard (tryStore x) := fun _ => rfl

theorem unheard_runStore (x : StoreM α) : Keeps Unheard (runStore x).run := fun _ => rfl

theorem unheard_notify (n : Notice) : Keeps Unheard (notify n) := fun _ => rfl

theorem unheard_escalateAndFail (dv : Divergence) (operation : String) :
    Keeps Unheard (escalateAndFail dv operation : DeskM α).run :=
  .seq (.lift (.seqM (unheard_notify _) fun _ => .triedM (unheard_tryStore _)
    (fun _ => .answerM _) fun _ => unheard_notify _)) fun _ => .fail _

/-- What is said on the floor is said there by the desk. -/
theorem floor_runFloor (x : FloorM α) (d : Desk) : (runFloor x d).2.floor = (x d.floor).2 := rfl

/-- **A leg is submitted** in one call, and whatever is done after it is not heard. -/
theorem journal_submit_bind {next : Ack → DeskM α} {operation : String}
    (shaped : (leg.instruction ctx.symbol).shape ctx.slug = .ok order)
    (unheard : ∀ ack, Keeps Unheard (next ack).run) (d : Desk) :
    ((runFloor (Floor.submit ctx leg operation) >>= next) d).2.floor.journal
      = d.floor.journal ++ [.submitted ctx.slug order] := by
  have called := Floor.journal_submit shaped operation d.floor
  rw [← floor_runFloor] at called
  rw [Run.bind_apply]
  rcases ran : runFloor (Floor.submit ctx leg operation) d with ⟨e | ack, d₁⟩ <;>
    rw [ran] at called
  · exact called
  · exact (unheard ack d₁).trans called

/-- A single order is submitted in one call. -/
theorem journal_executeSingle (shaped : (leg.instruction ctx.symbol).shape ctx.slug = .ok order)
    (r : OrderRequest) (marks : Leg.Marks) (d : Desk) :
    (executeSingle ctx r leg marks d).2.floor.journal
      = d.floor.journal ++ [.submitted ctx.slug order] := by
  unfold executeSingle
  rw [journal_submit_bind shaped]
  intro ack
  exact .tried (unheard_tryStore _) (fun _ => .answer _) fun _ => unheard_escalateAndFail _ _

/-- A protective order is submitted in one call. -/
theorem journal_placeProtection
    (shaped : (leg.instruction ctx.symbol).shape ctx.slug = .ok order) (d : Desk) :
    (placeProtection ctx leg d).2.floor.journal
      = d.floor.journal ++ [.submitted ctx.slug order] := by
  unfold placeProtection
  rw [journal_submit_bind shaped]
  refine fun ack => .seq (unheard_runStore _) fun ticket => ?_
  exact .tried (unheard_tryStore _) (fun _ => .answer _) fun _ => unheard_escalateAndFail _ _

theorem unheard_linkProtection (entryId : String) (placed : List Filed) :
    Keeps Unheard (linkProtection entryId placed) := by
  unfold linkProtection
  split
  · exact .triedM (unheard_tryStore _) (fun _ => .answerM _) fun _ => unheard_notify _
  · exact .answerM _

end

end Desk

end OrderDesk

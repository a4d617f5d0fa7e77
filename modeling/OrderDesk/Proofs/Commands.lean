import OrderDesk.Proofs.Conversation

/-!
# Submissions and cancels

A command is entered in the journal before the venue has answered it, so it is there
whatever the answer is. A submission has three ways to go wrong, and they leave different
things behind: the order cannot be put into the venue's words, and nothing was said; the
venue refuses, and only the command was given; or the venue *accepts* and its answer cannot
be read, and then there is an order at the venue of which the desk knows nothing but that
something failed.

The desk does not tell the three apart: it calls all of them a failure of the venue.
`Said` does, since it sees the orders that the venue accepted beside the commands.
-/

namespace OrderDesk

/-- **What the desk reads in the answer to a submission.** -/
def Submission.readAck (order : Submission) (answer : Payload) : Except Fault Ack :=
  Ack.read order.symbol order.side order.execution.word answer

/-- **The venue gave no acknowledgement** of an order: it refused it, or it accepted it with
an answer that cannot be read. The list is of what it accepted. -/
inductive Submission.NoAck (order : Submission) : List (Submission × Payload) → Prop where
  /-- The order was refused. -/
  | refused : NoAck order []
  /-- The order was accepted, and the answer cannot be read. -/
  | unread {answer : Payload} {e : Fault} (read : order.readAck answer = .error e) :
      NoAck order [(order, answer)]

namespace JournalEntry

/-- The entry of a submission. -/
def submitted (slug : String) (order : Submission) : JournalEntry := ⟨slug, .createOrder order⟩

/-- The entry of a cancel. -/
def canceled (slug id symbol : String) : JournalEntry := ⟨slug, .cancelOrder id symbol⟩

end JournalEntry

/-! ## Sessions -/

namespace Session

/-- **What was said in a session**: the commands that were given, and the orders that the
venue accepted. -/
structure Said (s t : Session) (commands : List JournalEntry)
    (accepted : List (Submission × Payload)) : Prop where
  /-- It is a session with the same venue. -/
  slug : t.slug = s.slug
  commands : t.commands = s.commands ++ commands
  accepted : t.venue.accepted = s.venue.accepted ++ accepted
  alarms : t.alarms = s.alarms

namespace Said

variable {s t u : Session} {c c' : List JournalEntry} {a a' : List (Submission × Payload)}

theorem trans (h : s.Said t c a) (k : t.Said u c' a') : s.Said u (c ++ c') (a ++ a') := by
  refine ⟨k.slug.trans h.slug, ?_, ?_, k.alarms.trans h.alarms⟩
  · rw [k.commands, h.commands, List.append_assoc]
  · rw [k.accepted, h.accepted, List.append_assoc]

/-- Without commands and accepted orders. -/
theorem silent (slug : t.slug = s.slug) (commands : t.commands = s.commands)
    (accepted : t.venue.accepted = s.venue.accepted) (alarms : t.alarms = s.alarms) :
    s.Said t [] [] :=
  ⟨slug, by rw [commands, List.append_nil], by rw [accepted, List.append_nil], alarms⟩

end Said

/-- A session in which one only asks. -/
theorem Reads.said {s t : Session} (h : s.Reads t) : s.Said t [] [] :=
  .silent h.slug h.commands (by rw [h.venue]) h.alarms

/-- A command that is entered in the journal. -/
theorem said_record {call : VenueCall} (s : Session)
    (h : (⟨s.slug, call⟩ : JournalEntry).isCommand = true) :
    s.Said (s.record call) [⟨s.slug, call⟩] [] := by
  refine ⟨rfl, ?_, (List.append_nil _).symm, rfl⟩
  show (s.journal ++ [_]).filter _ = s.commands ++ [_]
  rw [List.filter_append, List.filter_cons_of_pos h]
  rfl

end Session

namespace Line

open Session (Said)

/-- The answer to an order is taken from the venue's row of answers. -/
theorem said_takeOrderAnswer (s : Session) : s.Said (takeOrderAnswer s).2 [] [] := by
  have same : s.venue.answerOrder.2.accepted = s.venue.accepted := by
    unfold Venue.answerOrder
    split <;> rfl
  have ran : (takeOrderAnswer s).2 = { s with venue := s.venue.answerOrder.2 } := by
    unfold takeOrderAnswer
    rw [Run.get_bind]
    rcases s.venue.answerOrder with ⟨_ | _, _⟩ <;> rfl
  rw [ran]
  exact .silent rfl rfl same rfl

/-- The answer to a cancel is taken from the venue's row of answers. -/
theorem said_takeCancelAnswer (id : String) (s : Session) :
    s.Said (takeCancelAnswer id s).2 [] [] := by
  have same : (s.venue.answerCancel id).2.accepted = s.venue.accepted := by
    unfold Venue.answerCancel
    split <;> rfl
  have ran : (takeCancelAnswer id s).2 = { s with venue := (s.venue.answerCancel id).2 } := by
    unfold takeCancelAnswer
    rw [Run.get_bind]
    rcases s.venue.answerCancel id with ⟨_ | _, _⟩ <;> rfl
  rw [ran]
  exact .silent rfl rfl same rfl

/-- **The bare submission**: the command is given, and the order is accepted exactly when
there is an answer. -/
theorem said_createOrder {order : Submission} {s t : Session} {r : Except Fault Payload}
    (h : createOrder order s = (r, t)) :
    s.Said t [.submitted s.slug order] (r.toOption.toList.map (order, ·)) := by
  have counted : s.Said ((s.record (.createOrder order)).countSubmission)
      [.submitted s.slug order] [] :=
    (Session.said_record s rfl).trans (.silent rfl rfl rfl rfl)
  rcases Run.of_bind h with ⟨_, wrong, -⟩ | ⟨_, s₁, recorded, h⟩
  · cases wrong
  cases recorded
  rcases Run.of_bind h with ⟨_, wrong, -⟩ | ⟨_, s₂, sent, h⟩
  · cases wrong
  cases sent
  -- a failing step leaves the state that a passing one leaves, so both are settled at once
  have up : ∀ s₃, (ensureUp .createOrder _).2 = s₃ → s.Said s₃ [.submitted s.slug order] [] :=
    fun s₃ ended => counted.trans (ended ▸ (keeps_ensureUp .createOrder _).said)
  rcases Run.of_bind h with ⟨e, down, rfl⟩ | ⟨_, s₃, isUp, h⟩
  · exact up t (by rw [down])
  have taken : ∀ s₄, (takeOrderAnswer s₃).2 = s₄ → s.Said s₄ [.submitted s.slug order] [] :=
    fun s₄ ended => (up s₃ (by rw [isUp])).trans (ended ▸ said_takeOrderAnswer s₃)
  rcases Run.of_bind h with ⟨e, refused, rfl⟩ | ⟨answer, s₄, answered, h⟩
  · exact taken t (by rw [refused])
  rcases Run.of_bind h with ⟨_, wrong, -⟩ | ⟨_, s₅, accepted, h⟩
  · cases wrong
  cases accepted
  cases h
  exact (taken s₄ (by rw [answered])).trans ⟨rfl, (List.append_nil _).symm, rfl, rfl⟩

/-- **A submission**, by how far it got. -/
theorem submit_cases {i : Instruction} {s t : Session} {r : Except Fault Ack}
    (h : submit i s = (r, t)) :
    (∃ e, i.shape s.slug = .error e ∧ r = .error e ∧ s.Said t [] [])
    ∨ ∃ order, i.shape s.slug = .ok order ∧
        ((∃ e accepted, r = .error e ∧ order.NoAck accepted
            ∧ s.Said t [.submitted s.slug order] accepted)
        ∨ ∃ answer ack, r = .ok ack ∧ order.readAck answer = .ok ack
            ∧ s.Said t [.submitted s.slug order] [(order, answer)]) := by
  rcases Run.of_bind h with ⟨_, wrong, -⟩ | ⟨_, _, looked, h⟩
  · cases wrong
  cases looked
  cases shaped : i.shape s.slug with
  | error e =>
    rw [shaped] at h
    cases h
    exact .inl ⟨e, rfl, rfl, .silent rfl rfl rfl rfl⟩
  | ok order =>
    refine .inr ⟨order, rfl, ?_⟩
    rw [shaped] at h
    rcases Run.of_bind h with ⟨_, wrong, -⟩ | ⟨_, _, found, h⟩
    · cases wrong
    cases found
    rcases Run.of_bind h with ⟨e, failed, rfl⟩ | ⟨answer, u, answered, h⟩
    · exact .inl ⟨e, [], rfl, .refused, said_createOrder failed⟩
    · cases h
      cases read : order.readAck answer with
      | ok ack => exact .inr ⟨answer, ack, read, read, said_createOrder answered⟩
      | error e => exact .inl ⟨e, _, read, .unread read, said_createOrder answered⟩

/-- **A cancel is asked for**, whatever comes of it. -/
theorem said_cancel (id symbol : String) (s : Session) :
    s.Said (cancel id symbol s).2 [.canceled s.slug id symbol] [] := by
  rcases h : cancel id symbol s with ⟨r, t⟩
  show s.Said t _ _
  have asked : s.Said (s.record (.cancelOrder id symbol)) [.canceled s.slug id symbol] [] :=
    Session.said_record s rfl
  have called : s.Said (Line.call .cancelOrder (.cancelOrder id symbol) s).2
      [.canceled s.slug id symbol] [] :=
    asked.trans (keeps_ensureUp .cancelOrder _).said
  have answered : s.Said (cancelOrder id symbol s).2 [.canceled s.slug id symbol] [] := by
    rcases ran : cancelOrder id symbol s with ⟨r, u⟩
    rcases Run.of_bind ran with ⟨e, down, rfl⟩ | ⟨_, v, isUp, ran⟩
    · rwa [down] at called
    · rw [isUp] at called
      exact called.trans (by simpa only [ran] using said_takeCancelAnswer id v)
  -- reading the answer says nothing more
  rcases Run.of_bind h with ⟨e, refused, rfl⟩ | ⟨answer, u, got, h⟩
  · rwa [refused] at answered
  · rw [got] at answered
    by_cases present : answer.isPresent = true
    · rw [if_pos present] at h
      rcases Run.of_bind h with ⟨e, unread, rfl⟩ | ⟨ack, v, isRead, h⟩
      · have same : u = t := congrArg Prod.snd unread
        rwa [same] at answered
      · have same : u = v := congrArg Prod.snd isRead
        cases h
        rwa [same] at answered
    · rw [if_neg present] at h
      cases h
      exact answered

end Line

/-! ## The floor -/

namespace Floor

/-- **What was said to a venue on the floor**: the commands that were given to it, and the
orders that it accepted. The other venues accepted nothing. -/
structure Said (slug : String) (f g : Floor) (commands : List JournalEntry)
    (accepted : List (Submission × Payload)) : Prop where
  commands : g.commands = f.commands ++ commands
  accepted : g.accepted slug = f.accepted slug ++ accepted
  others : ∀ name, name ≠ slug → g.accepted name = f.accepted name
  alarms : g.alarms = f.alarms

namespace Said

variable {slug : String} {f g h : Floor} {c c' : List JournalEntry}
  {a a' : List (Submission × Payload)}

theorem trans (first : Said slug f g c a) (second : Said slug g h c' a') :
    Said slug f h (c ++ c') (a ++ a') := by
  refine ⟨?_, ?_, fun name other => ?_, second.alarms.trans first.alarms⟩
  · rw [second.commands, first.commands, List.append_assoc]
  · rw [second.accepted, first.accepted, List.append_assoc]
  · rw [second.others name other, first.others name other]

end Said

/-- A floor on which one only asks. -/
theorem Reads.said {f g : Floor} (h : f.Reads g) (slug : String) : Said slug f g [] [] := by
  refine ⟨?_, ?_, fun name _ => ?_, h.alarms⟩
  · rw [h.commands, List.append_nil]
  · rw [List.append_nil]
    exact congrArg Venue.accepted (h.script slug)
  · exact congrArg Venue.accepted (h.script name)

/-- What is said in a session is said on the floor. -/
theorem said_onLine {α : Type} {slug user : String} {x : StateM Session α} {f : Floor}
    {c : List JournalEntry} {a : List (Submission × Payload)}
    (h : (f.session slug user).Said (x (f.session slug user)).2 c a) :
    Said slug f (onLine slug user x f).2 c a := by
  have after := script_absorb f user (x (f.session slug user)).2
  rw [h.slug] at after
  refine ⟨h.commands, ?_, fun name other => ?_, h.alarms⟩
  · refine (congrArg Venue.accepted ((after slug).trans (if_pos ?_))).trans h.accepted
    rfl
  · refine congrArg Venue.accepted ((after name).trans ?_)
    exact if_neg other

/-- The outcome of an exchange is that of the session. -/
theorem outcome_trySpeak {α : Type} (ctx : Context) (x : Line α) (f : Floor) :
    (trySpeak ctx x f).1 = (x.run (f.session ctx.slug ctx.user)).1 := rfl

/-- **How the submission of a leg can end.** What fails is called a failure of the venue in
three different cases. -/
inductive Submits (ctx : Context) (leg : Leg) (operation : String) (f : Floor) :
    Except Failure Ack → Floor → Prop where
  /-- The venue accepted the order and its answer was read. -/
  | taken {order : Submission} {answer : Payload} {ack : Ack} {g : Floor}
      (shaped : (leg.instruction ctx.symbol).shape ctx.slug = .ok order)
      (read : order.readAck answer = .ok ack)
      (said : Said ctx.slug f g [.submitted ctx.slug order] [(order, answer)]) :
      Submits ctx leg operation f (.ok ack) g
  /-- The order cannot be put into the venue's words. -/
  | unshaped {e : Fault} {g : Floor}
      (shaped : (leg.instruction ctx.symbol).shape ctx.slug = .error e)
      (said : Said ctx.slug f g [] []) :
      Submits ctx leg operation f (.error (.venue operation e.message)) g
  /-- The venue gave no acknowledgement. -/
  | failed {order : Submission} {accepted : List (Submission × Payload)} {reason : String}
      {g : Floor} (shaped : (leg.instruction ctx.symbol).shape ctx.slug = .ok order)
      (noAck : order.NoAck accepted)
      (said : Said ctx.slug f g [.submitted ctx.slug order] accepted) :
      Submits ctx leg operation f (.error (.venue operation reason)) g

/-- **The submission of a leg ends in one of these ways.** -/
theorem submits (ctx : Context) (leg : Leg) (operation : String) (f : Floor) :
    Submits ctx leg operation f (submit ctx leg operation f).1
      (submit ctx leg operation f).2 := by
  rcases spoken : (Line.submit (leg.instruction ctx.symbol)).run (f.session ctx.slug ctx.user)
    with ⟨r, s⟩
  have lifted : ∀ {c a}, (f.session ctx.slug ctx.user).Said s c a →
      Said ctx.slug f (trySpeak ctx (Line.submit (leg.instruction ctx.symbol)) f).2 c a := by
    intro c a h
    have ended := congrArg Prod.snd spoken
    exact said_onLine (ended.symm ▸ h)
  -- the outcome is read off the session, and what was said is lifted to the floor
  unfold submit
  rw [Run.lift_bind, outcome_trySpeak, spoken]
  generalize (trySpeak ctx (Line.submit (leg.instruction ctx.symbol)) f).2 = g at lifted
  rcases Line.submit_cases spoken with ⟨e, shaped, rfl, said⟩ | ⟨order, shaped, said⟩
  · exact .unshaped shaped (lifted said)
  · rcases said with ⟨e, accepted, rfl, noAck, said⟩ | ⟨answer, ack, rfl, read, said⟩
    · exact .failed shaped noAck (lifted said)
    · exact .taken shaped read (lifted said)

/-- How the submission of a leg ends that can be put into the venue's words. -/
theorem submits_of_shape {ctx : Context} {leg : Leg} {operation : String} {order : Submission}
    {f g : Floor} {r : Except Failure Ack}
    (shaped : (leg.instruction ctx.symbol).shape ctx.slug = .ok order)
    (h : submit ctx leg operation f = (r, g)) :
    (∃ reason accepted, r = .error (.venue operation reason) ∧ order.NoAck accepted
        ∧ Said ctx.slug f g [.submitted ctx.slug order] accepted)
    ∨ ∃ answer ack, r = .ok ack ∧ order.readAck answer = .ok ack
        ∧ Said ctx.slug f g [.submitted ctx.slug order] [(order, answer)] := by
  have ends := submits ctx leg operation f
  rw [h] at ends
  cases ends with
  | unshaped wrong =>
    rw [shaped] at wrong
    cases wrong
  | failed same noAck said =>
    rw [shaped] at same
    cases same
    exact .inl ⟨_, _, rfl, noAck, said⟩
  | taken same read said =>
    rw [shaped] at same
    cases same
    exact .inr ⟨_, _, rfl, read, said⟩

end Floor

end OrderDesk

import Mathlib.Algebra.Order.Group.Multiset
import Mathlib.Tactic.Abel
import OrderDesk.Proofs.Links
import OrderDesk.Proofs.Pair

/-!
# Accounting for accepted orders

An order that a venue has accepted is *accounted for* when somebody can find it: its row is
in the store, or an alarm names it, or a cancel was asked for it. Which orders a trail
accounts for is a multiset of the venue's identifiers, so that an order that is accounted
for twice counts twice, and the accounts of two trails that follow each other add up.

What can be accounted for at all is an order whose answer told the desk its identifier. This
module shows of single orders and of pairs that they account for exactly those.
-/

namespace OrderDesk

/-- The identifier that the answer to an accepted order gives, when it can be read. -/
def readId? (x : Submission × Payload) : Option String :=
  (x.1.readAck x.2).toOption.map (·.id)

/-- A venue that gave no acknowledgement gave no identifier. -/
theorem Submission.NoAck.readIds {order : Submission} {accepted : List (Submission × Payload)}
    (h : order.NoAck accepted) : accepted.filterMap readId? = [] := by
  cases h with
  | refused => rfl
  | unread read =>
    refine List.filterMap_cons_none ?_
    unfold readId?
    rw [read]
    rfl

/-- The identifier of an acknowledged order. -/
theorem readId?_of_read {order : Submission} {answer : Payload} {ack : Ack}
    (h : order.readAck answer = .ok ack) : readId? (order, answer) = some ack.id := by
  unfold readId?
  rw [h]
  rfl

namespace Trail

/-- The identifiers of the orders that the alarms of a trail name. -/
def escalated (t : Trail) : List String :=
  (t.alarms.filterMap (·.divergence?)).flatMap (·.venueOrderIds)

/-- The identifiers of the orders that the trail asks to cancel. -/
def canceled (t : Trail) : List String := t.commands.filterMap (·.cancel?.map Prod.fst)

/-- **The orders that a trail accounts for**: they are stored, escalated or canceled. -/
def accountedFor (t : Trail) : Multiset String :=
  (t.rows.map (·.venueOrderId) : Multiset String) + t.escalated + t.canceled

/-- **The accounts of two trails add up.** -/
theorem accountedFor_append (t u : Trail) :
    (t ++ u).accountedFor = t.accountedFor + u.accountedFor := by
  have rows : ((t ++ u).rows.map (·.venueOrderId) : Multiset String)
      = (t.rows.map (·.venueOrderId) : Multiset String)
        + (u.rows.map (·.venueOrderId) : Multiset String) := by
    rw [Multiset.coe_add, ← List.map_append]
    rfl
  have escalated : ((t ++ u).escalated : Multiset String) = t.escalated + u.escalated := by
    rw [Multiset.coe_add]
    unfold Trail.escalated
    rw [← List.flatMap_append, ← List.filterMap_append]
    rfl
  have canceled : ((t ++ u).canceled : Multiset String) = t.canceled + u.canceled := by
    rw [Multiset.coe_add]
    unfold Trail.canceled
    rw [← List.filterMap_append]
    rfl
  unfold accountedFor
  rw [rows, escalated, canceled]
  abel

/-- **A trail accounts for what was accepted**, as far as `known` knows its identifier. -/
def Accounts (known : Submission × Payload → Option String) (t : Trail) : Prop :=
  t.accountedFor = (t.accepted.filterMap known : List String)

variable {known : Submission × Payload → Option String} {t u : Trail}

theorem Accounts.append (ht : t.Accounts known) (hu : u.Accounts known) :
    (t ++ u).Accounts known := by
  unfold Accounts
  rw [accountedFor_append, ht, hu, Multiset.coe_add, ← List.filterMap_append]
  rfl

theorem accounts_empty : Accounts known {} := rfl

/-- A divergence that is shown accounts for the orders that it names. -/
theorem accountedFor_of_shown {dv : Divergence} {s : Store} (h : dv.Shown s t) :
    t.accountedFor = (dv.venueOrderIds : Multiset String) ∧ t.accepted = [] := by
  have named : (0 + ((dv.venueOrderIds ++ [] : List String) : Multiset String) + 0
      : Multiset String) = dv.venueOrderIds := by
    rw [List.append_nil, zero_add, add_zero]
  cases h with
  | recorded writes reports => exact ⟨named, rfl⟩
  | lost fails planned => exact ⟨named, rfl⟩

/-- A failed submission accounts for nothing, and there is nothing to account for. -/
theorem accounts_of_unplaced {slug : String}
    (unread : ∀ {order : Submission} {accepted}, order.NoAck accepted →
      accepted.filterMap known = []) (h : Desk.Unplaced slug t) : t.Accounts known := by
  cases h with
  | unshaped => exact accounts_empty
  | attempted noAck =>
    unfold Accounts
    rw [unread noAck]
    rfl

/-- What was acknowledged, and shown to diverge, is accounted for. -/
theorem accounts_of_shown {dv : Divergence} {s : Store} {c : List JournalEntry}
    {a : List (Submission × Payload)} (shown : dv.Shown s t)
    (asked : c.filterMap (·.cancel?.map Prod.fst) = [])
    (names : a.filterMap known = dv.venueOrderIds) :
    ({ commands := c, accepted := a } ++ t : Trail).Accounts known := by
  obtain ⟨account, nothing⟩ := accountedFor_of_shown shown
  have before : ({ commands := c, accepted := a } : Trail).accountedFor = 0 := by
    show (0 + 0 + ((c.filterMap (·.cancel?.map Prod.fst) : List String) : Multiset String)
      : Multiset String) = 0
    rw [asked]
    rfl
  unfold Accounts
  rw [accountedFor_append, before, account, zero_add, ← names]
  show _ = (((a ++ t.accepted).filterMap known : List String) : Multiset String)
  rw [nothing, List.append_nil]

end Trail

namespace Desk

variable {slug : String} {d d' : Desk}

/-- **What the placement of a single order leaves behind**, in every case. -/
structure SingleTrail {α : Type} (of : α → Ack → Order → Prop) (r : Except Failure α)
    (t : Trail) : Prop where
  /-- It accounts for the order when its answer could be read. -/
  accounts : t.Accounts readId?
  atMostOne : t.accepted.length ≤ 1
  accepted : ∀ a, r = .ok a → t.accepted ≠ []
  /-- A row that was written is that of the order. -/
  rows : ∀ row ∈ t.rows, ∃ a ack, of a ack row

/-- A single order that was not placed and not written down. -/
theorem SingleTrail.ofError {α : Type} {of : α → Ack → Order → Prop} {e : Failure} {t : Trail}
    (accounts : t.Accounts readId?) (atMostOne : t.accepted.length ≤ 1) (none : t.rows = []) :
    SingleTrail of (.error e) t where
  accounts := accounts
  atMostOne := atMostOne
  accepted := by
    intro a wrong
    cases wrong
  rows := by
    intro row mem
    rw [none] at mem
    cases mem

/-- **A single order is accounted for** whenever its answer could be read, however its
placement ended. -/
theorem PlacesOne.trail {α : Type} {of : α → Ack → Order → Prop} {r : Except Failure α}
    (holds : ∀ {a ack row}, of a ack row → row.venueOrderId = ack.id)
    (h : PlacesOne of slug d r d') : ∃ t, Leaves slug d d' t ∧ SingleTrail of r t := by
  cases h with
  | placed read is leaves =>
    refine ⟨_, leaves, ?_, le_refl 1, fun _ _ => List.cons_ne_nil _ _, fun row mem => ?_⟩
    · unfold Trail.Accounts
      rw [List.filterMap_cons_some (readId?_of_read read), ← holds is]
      rfl
    · obtain rfl := List.mem_singleton.mp mem
      exact ⟨_, _, is⟩
  | failed unplaced leaves =>
    have accounts := Trail.accounts_of_unplaced Submission.NoAck.readIds unplaced
    refine ⟨_, leaves, ?_⟩
    cases unplaced with
    | unshaped => exact .ofError accounts (Nat.zero_le 1) rfl
    | attempted noAck =>
      cases noAck with
      | refused => exact .ofError accounts (Nat.zero_le 1) rfl
      | unread _ => exact .ofError accounts (le_refl 1) rfl
  | diverged read names stood escalated shown leaves =>
    refine ⟨_, leaves, .ofError (Trail.accounts_of_shown shown rfl ?_) ?_ ?_⟩
    · rw [List.filterMap_cons_some (readId?_of_read read), names]
      rfl
    · show (_ :: [] ++ Trail.accepted _).length ≤ 1
      rw [(Trail.accountedFor_of_shown shown).2]
      exact le_refl 1
    · cases shown <;> rfl
  | withheld own silent =>
    exact ⟨_, silent, .ofError Trail.accounts_empty (Nat.zero_le 1) rfl⟩

/-- The rows of a pair answer each other's links. -/
theorem ArePair.links {ctx : Context} {profit stop : Leg} {acks : Ack × Ack} {ticket : Ticket}
    {a b : Order} (h : ArePair ctx profit stop acks ticket a b)
    (sides : profit.side = stop.side) : LinksAnswered [a, b] := by
  have first := h.first.isAbout
  rw [sides] at first
  exact .pair h.apart h.forth h.back (first.sameBook h.second.isAbout)

/-- **Both orders of a pair are accounted for** whenever their answers could be read,
however their placement ended, and the rows that were written answer each other's links and
belong to the user. -/
theorem PlacesPair.trail {r : OrderRequest} {user : String} {res : Except Failure Ticket}
    (h : PlacesPair r user d res d') :
    ∃ t, Leaves r.venue d d' t ∧ t.Accounts readId? ∧ LinksAnswered t.rows
      ∧ ∀ row ∈ t.rows, row.user = user := by
  have noRow : ∀ row ∈ ([] : List Order), row.user = user := fun _ mem => nomatch mem
  cases h with
  | withheld own silent store => exact ⟨_, silent, Trail.accounts_empty, .nil, noRow⟩
  | profitFailed halves noAck store leaves =>
    refine ⟨_, leaves, ?_, .nil, noRow⟩
    unfold Trail.Accounts
    rw [noAck.readIds]
    rfl
  | stopFailed halves read noAck store leaves =>
    refine ⟨_, leaves, ?_, .nil, noRow⟩
    unfold Trail.Accounts
    rw [List.filterMap_cons_some (readId?_of_read read), noAck.readIds]
    rfl
  | placed halves read read' owner venue side side' pair leaves =>
    refine ⟨_, leaves, ?_, pair.links (side.trans side'.symm), fun row mem => ?_⟩
    · unfold Trail.Accounts
      rw [List.filterMap_cons_some (readId?_of_read read),
        List.filterMap_cons_some (readId?_of_read read'), ← pair.first.venueOrderId,
        ← pair.second.venueOrderId]
      rfl
    · rcases List.mem_cons.mp mem with rfl | last
      · exact pair.first.user.trans owner
      · obtain rfl := List.mem_singleton.mp last
        exact pair.second.user.trans owner
  | diverged halves read read' names stood escalated shown leaves =>
    refine ⟨_, leaves, Trail.accounts_of_shown shown rfl ?_, ?_, ?_⟩
    · rw [List.filterMap_cons_some (readId?_of_read read),
        List.filterMap_cons_some (readId?_of_read read'), names]
      rfl
    · cases shown <;> exact .nil
    · cases shown <;> exact noRow

end Desk

end OrderDesk

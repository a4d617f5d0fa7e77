import Mathlib.Data.List.ReduceOption
import OrderDesk.Proofs.Protection

/-!
# No accepted order is lost, as far as its answer can be read

A venue accepts an order when it answers it. Whatever the desk then does, the order exists,
and the one thing that must not happen is that nobody knows of it. For every placement, by
a strategy or by hand, of one order, of a pair, or of an entry with its protection, the
orders that are accounted for in the end are exactly those whose answers can be read: each
is stored, escalated or canceled, once.

The others are lost. An answer without an identifier, or with a part that is not of the
expected shape, is reported as if the venue had failed, and of a protective order also one
whose status is no text. `Placement.known` says which these are, so that the condition is
exact.
-/

namespace OrderDesk

/-- **A placement**: a request of a user, placed by a strategy or by hand. -/
inductive Placement where
  | byStrategy (r : OrderRequest) (user : String)
  | byHand (r : OrderRequest) (user : String)

namespace Placement

/-- What the placement does. -/
def run : Placement → DeskM Ticket
  | byStrategy r user => Desk.createOrder r user
  | byHand r user => Desk.placeManualOrder r user

/-- The venue of the placement. -/
def venue : Placement → String
  | byStrategy r _ => r.venue
  | byHand r _ => r.venue

/-- Whose placement it is. -/
def user : Placement → String
  | byStrategy _ user => user
  | byHand _ user => user

/-- What a placement learns of an order after its first one. By hand it is the protection
of an entry, unless the order is a pair. -/
def laterId? : Placement → Submission × Payload → Option String
  | byStrategy _ _ => readId?
  | byHand r _ => if r.type = .oco then readId? else recordId?

/-- **What a placement learns** of the identifiers of the orders that were accepted. -/
def known (p : Placement) : List (Submission × Payload) → List (Option String)
  | [] => []
  | first :: later => readId? first :: later.map p.laterId?

/-- A placement in which all answers are read alike. -/
theorem known_of_alike {p : Placement} (alike : p.laterId? = readId?)
    (accepted : List (Submission × Payload)) : p.known accepted = accepted.map readId? := by
  cases accepted with
  | nil => rfl
  | cons first later =>
    show readId? first :: later.map p.laterId? = _
    rw [alike]
    rfl

/-- What is learnt of an entry and its protection. -/
theorem known_append {p : Placement} (protects : p.laterId? = recordId?)
    {entry later : List (Submission × Payload)} (atMostOne : entry.length ≤ 1)
    (noEntry : entry = [] → later = []) :
    p.known (entry ++ later) = entry.map readId? ++ later.map recordId? := by
  match entry with
  | [] =>
    rw [noEntry rfl]
    rfl
  | [x] =>
    show readId? x :: later.map p.laterId? = _
    rw [protects]
    rfl
  | _ :: _ :: _ => exact absurd atMostOne (by simp)

/-- Something or nothing is learnt of every order. -/
theorem length_known (p : Placement) (accepted : List (Submission × Payload)) :
    (p.known accepted).length = accepted.length := by
  cases accepted with
  | nil => rfl
  | cons first later => exact congrArg Nat.succ (List.length_map _)

/-- What is known of some orders, one by one. -/
theorem reduceOption_map {known : Submission × Payload → Option String}
    (accepted : List (Submission × Payload)) :
    (accepted.map known).reduceOption = accepted.filterMap known := by
  unfold List.reduceOption
  rw [List.filterMap_map, Function.id_comp]

/-- **What a placement leaves behind**: it accounts for what it learnt of, and its rows
answer each other's links. -/
structure PlacementTrail (p : Placement) (t : Trail) : Prop where
  /-- It accounts for the orders whose identifiers it learnt. -/
  accounts : t.accountedFor = ((p.known t.accepted).reduceOption : List String)
  links : LinksAnswered t.rows

/-- A trail in which all answers are read alike. -/
theorem PlacementTrail.ofAlike {p : Placement} {t : Trail} (alike : p.laterId? = readId?)
    (accounts : t.Accounts readId?) (links : LinksAnswered t.rows) : PlacementTrail p t := by
  refine ⟨?_, links⟩
  rw [known_of_alike alike, reduceOption_map]
  exact accounts

/-- **Every placement leaves such a trail**, whatever the venue answers and whatever fails,
and all rows that it writes belong to its user. -/
theorem leaves_run_owned (p : Placement) (d : Desk) :
    ∃ t, Desk.Leaves p.venue d (p.run d).2 t ∧ PlacementTrail p t
      ∧ ∀ row ∈ t.rows, row.user = p.user := by
  cases p with
  | byStrategy r user =>
    obtain ⟨t, leaves, trail⟩ := (Desk.placesOne_createOrder r user d).trail
      Desk.Holds.venueOrderId
    refine ⟨t, leaves, .ofAlike rfl trail.accounts (.of_unlinked fun row mem => ?_),
      fun row mem => ?_⟩
    · obtain ⟨ticket, ack, holds⟩ := trail.rows row mem
      exact holds.link
    · obtain ⟨ticket, ack, holds⟩ := trail.rows row mem
      exact holds.user
  | byHand r user =>
    by_cases pair : r.type = .oco
    · obtain ⟨t, leaves, accounts, links, owned⟩ := (Desk.placesPair pair user d).trail
      exact ⟨t, leaves, .ofAlike (if_pos pair) accounts links, owned⟩
    · rcases ran : Desk.placeManualOrder r user d with ⟨res, d'⟩
      show ∃ t, Desk.Leaves r.venue d (Desk.placeManualOrder r user d).2 t ∧ _ ∧ _
      rw [ran]
      rcases Desk.opening_cases r.own_ensureComplete (OrderRequest.own_ensureSupported _ _) ran
        with ⟨e, rfl, own, silent, -⟩ | ⟨ctx, d₁, next, venue, rfl, -, -, silent, -⟩
      · exact ⟨{}, silent, ⟨rfl, .nil⟩, fun _ mem => nomatch mem⟩
      · have single : (r.type == .oco) = false := beq_eq_false_iff_ne.mpr pair
        rw [single] at next
        have protecting : Desk.placeProtected ctx r d₁ = (res, d') := next
        obtain ⟨t, u, leaves, trail, owned⟩ := Desk.leaves_placeProtected ctx r d₁
        rw [protecting, venue] at leaves
        have protects : (byHand r ctx.user).laterId? = recordId? := if_neg pair
        refine ⟨t ++ u, silent.then leaves, ⟨?_, trail.links⟩, owned⟩
        show _ = ((Placement.known _ (t.accepted ++ u.accepted)).reduceOption : Multiset String)
        rw [known_append protects trail.atMostOne trail.noEntry, List.reduceOption_append,
          reduceOption_map, reduceOption_map, Trail.accountedFor_append, trail.entry,
          trail.protection, Multiset.coe_add]

theorem leaves_run (p : Placement) (d : Desk) :
    ∃ t, Desk.Leaves p.venue d (p.run d).2 t ∧ PlacementTrail p t := by
  obtain ⟨t, leaves, trail, -⟩ := p.leaves_run_owned d
  exact ⟨t, leaves, trail⟩

/-- **Accepted orders are accounted for exactly as far as their answers can be read.** The
orders that a placement stores, escalates or cancels are those whose identifiers it learnt,
each once; and it loses none of those that the venue accepted if and only if it learnt the
identifiers of all. -/
theorem accounts_for_accepted (p : Placement) (d : Desk) :
    ∃ t, Desk.Leaves p.venue d (p.run d).2 t
      ∧ t.accountedFor = ((p.known t.accepted).reduceOption : List String)
      ∧ (t.accountedFor.card = t.accepted.length ↔ none ∉ p.known t.accepted) := by
  obtain ⟨t, leaves, trail⟩ := p.leaves_run d
  refine ⟨t, leaves, trail.accounts, ?_⟩
  -- a list keeps its length without its missing entries only when it has none
  rw [trail.accounts, Multiset.coe_card, ← p.length_known, List.reduceOption_length_eq_iff]
  constructor
  · intro all mem
    cases all none mem
  · intro all x mem
    cases x with
    | none => exact absurd mem all
    | some id => rfl

/-! ## Orders that are lost -/

/-- **A placement loses an order**: the venue accepted more orders than are accounted for. -/
def Loses (p : Placement) (d : Desk) : Prop :=
  ∃ t, Desk.Leaves p.venue d (p.run d).2 t ∧ t.accountedFor.card < t.accepted.length

/-- How many orders a desk accounts for, all in all. -/
def accountedOn (d : Desk) : Nat :=
  d.store.ledger.rows.length
    + ((d.floor.alarms.filterMap (·.divergence?)).flatMap (·.venueOrderIds)).length
    + (d.floor.commands.filterMap (·.cancel?.map Prod.fst)).length

/-- On a small desk nothing was accounted for before. -/
theorem loses_of_small {p : Placement} {acks : List OrderAnswer} {plan : FailurePlan}
    (here : p.venue = "binance")
    (fewer : accountedOn (p.run (Desk.small acks plan)).2
      < ((p.run (Desk.small acks plan)).2.floor.accepted "binance").length) :
    p.Loses (Desk.small acks plan) := by
  obtain ⟨t, leaves, -⟩ := p.leaves_run (Desk.small acks plan)
  refine ⟨t, leaves, ?_⟩
  have rows : (p.run (Desk.small acks plan)).2.store.ledger.rows = t.rows :=
    leaves.wrote.rows
  have alarms : (p.run (Desk.small acks plan)).2.floor.alarms = t.alarms := leaves.alarms
  have commands : (p.run (Desk.small acks plan)).2.floor.commands = t.commands :=
    leaves.commands
  have accepted := leaves.accepted
  rw [here] at accepted
  unfold accountedOn at fewer
  rw [rows, alarms, commands, show _ = t.accepted from accepted] at fewer
  unfold Trail.accountedFor
  rwa [Multiset.card_add, Multiset.card_add, Multiset.coe_card, Multiset.coe_card,
    Multiset.coe_card, List.length_map]

/-- An answer without an identifier. -/
def noIdentifier : OrderAnswer := .bare (.object [("status", .text "open")])

/-- An answer whose status is a number. -/
def numberedStatus : OrderAnswer := .accepted (.object [("status", .whole 5)])

/-- One coin at market, protected by a stop. -/
def protectedCoin : OrderRequest := { Desk.oneCoin with stopLossPrice := some 0.5 }

/-- Orders are lost: one that is answered without an identifier, and a protective one whose
status is no text. -/
theorem accepted_orders_are_lost :
    (byStrategy Desk.oneCoin "u1").Loses (Desk.small [noIdentifier] {})
    ∧ (byHand protectedCoin "u1").Loses (Desk.small [.accepted (.object []), numberedStatus] {}) :=
  ⟨loses_of_small rfl (by decide +kernel), loses_of_small rfl (by decide +kernel)⟩

end Placement

end OrderDesk

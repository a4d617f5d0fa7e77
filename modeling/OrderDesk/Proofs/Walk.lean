import Mathlib.Data.List.Nodup
import Mathlib.Data.List.Perm.Subperm
import Mathlib.Logic.Relation
import OrderDesk.Proofs.Canceling

/-!
# Which cancels follow from one

A cancel goes on along the links, and links can run in any way: in the pairs that the desk
itself makes they run in a circle, and rows that were written by others may be linked to
themselves, to nothing, or to an order of somebody else. What keeps the walk from running
forever is that each step closes an order, and that only what is open is canceled. For the
same reason no order is asked for twice.

`Walk` lists what was asked for on the way, each time with the ledger of that moment. An
order that is open at some moment of a walk was open before it, with the same row, so that
whatever is said of the moment can be said of the ledger at the beginning.
-/

namespace OrderDesk

/-- **A cancel that was asked for**: the order, and the ledger of that moment. -/
structure Asked where
  ledger : Ledger
  order : Order

namespace Asked

/-- What a venue is told. -/
def command (a : Asked) : JournalEntry :=
  .canceled a.order.venue a.order.venueOrderId a.order.symbol

/-- The order that is meant. -/
def id (a : Asked) : String := a.order.id

end Asked

namespace Ledger

variable {l : Ledger}

/-- An order leads to the one that it is linked to. -/
def Leads (l : Ledger) (id next : String) : Prop :=
  ∃ o, l.find? id = some o ∧ o.link = some next

/-- **A cancel leaves the links as they are.** -/
theorem Leads.of_close {id : String} {o : Order} {time : Stamp}
    (found : l.find? id = some o) {a b : String} (h : (l.close id time).Leads a b) :
    l.Leads a b := by
  obtain ⟨x, stored, link⟩ := h
  by_cases same : a = id
  · subst same
    rw [find?_close_self time found] at stored
    cases stored
    exact ⟨o, found, link⟩
  · rw [find?_close_other time same] at stored
    exact ⟨x, stored, link⟩

/-- The orders of a user that are open. -/
def openOf (l : Ledger) (user : String) : List Order :=
  l.rows.filter fun o => o.user == user && o.isOpen

theorem HasOpen.mem_openOf {user id : String} {o : Order} (h : l.HasOpen user id o) :
    o ∈ l.openOf user := by
  refine List.mem_filter.mpr ⟨mem_of_find? h.stored, ?_⟩
  rw [h.owner, h.isOpen, beq_self_eq_true, Bool.and_self]

end Ledger

namespace Desk

/-- **A walk along the links** of a user's orders, from one identifier on: what was asked
for on the way. -/
inductive Walk (user : String) : String → Desk → List Asked → Desk → Prop where
  /-- No venue can be asked. -/
  | rest {id : String} {d d' : Desk} (stuck : Stuck user id d)
      (commands : d'.floor.commands = d.floor.commands) : Walk user id d [] d'
  /-- One cancel is asked for, and the walk ends with it: the order was not closed, or it is
  linked to none. -/
  | last {id : String} {d d' : Desk} {o : Order} (has : d.store.ledger.HasOpen user id o)
      (commands : d'.floor.commands = d.floor.commands ++ [(Asked.mk d.store.ledger o).command])
      (ends : d'.store.ledger = d.store.ledger ∨ o.sibling? = none) :
      Walk user id d [⟨d.store.ledger, o⟩] d'
  /-- The order is closed, and the walk goes on from the one that it is linked to. -/
  | onward {id next : String} {d d₁ d' : Desk} {o : Order} {time : Stamp}
      {asked : List Asked} (has : d.store.ledger.HasOpen user id o)
      (commands : d₁.floor.commands = d.floor.commands ++ [(Asked.mk d.store.ledger o).command])
      (ledger : d₁.store.ledger = d.store.ledger.close id time)
      (link : o.sibling? = some next) (later : Walk user next d₁ asked d') :
      Walk user id d (⟨d.store.ledger, o⟩ :: asked) d'

section

variable {user id : String} {d d' : Desk} {asked : List Asked}

/-- A notice does not matter after a walk. -/
theorem Walk.notify (n : Notice) (h : Walk user id d asked d') :
    Walk user id d asked { d' with floor := d'.floor.notify n } := by
  induction h with
  | rest stuck commands => exact .rest stuck commands
  | last has commands ends => exact .last has commands ends
  | onward has commands ledger link _ ih => exact .onward has commands ledger link ih

/-- What the venues were told on a walk. -/
theorem Walk.commands (h : Walk user id d asked d') :
    d'.floor.commands = d.floor.commands ++ asked.map (·.command) := by
  induction h with
  | rest _ commands =>
    rw [commands]
    exact (List.append_nil _).symm
  | last _ commands _ => exact commands
  | onward _ commands _ _ _ ih =>
    rw [ih, commands, List.append_assoc]
    rfl

/-- **Every order was open when its cancel was asked for**, and its row was then as it had
been at the beginning. -/
theorem Walk.hasOpen (h : Walk user id d asked d') :
    ∀ a ∈ asked, a.ledger.HasOpen user a.id a.order
      ∧ d.store.ledger.HasOpen user a.id a.order := by
  have here : ∀ {l : Ledger} {id : String} {o : Order}, l.HasOpen user id o →
      l.HasOpen user o.id o := by
    intro l id o has
    rwa [has.id_eq]
  induction h with
  | rest _ _ => exact fun a mem => absurd mem List.not_mem_nil
  | last has _ _ =>
    intro a mem
    obtain rfl := List.mem_singleton.mp mem
    exact ⟨here has, here has⟩
  | onward has _ ledger _ _ ih =>
    intro a mem
    rcases List.mem_cons.mp mem with rfl | later
    · exact ⟨here has, here has⟩
    · obtain ⟨moment, after⟩ := ih a later
      rw [ledger] at after
      exact ⟨moment, (after.of_close has.stored).2⟩

/-- **Every order is on the chain** of links from where the walk began. -/
theorem Walk.onChain (h : Walk user id d asked d') :
    ∀ a ∈ asked, Relation.ReflTransGen d.store.ledger.Leads id a.id := by
  induction h with
  | rest _ _ => exact fun a mem => absurd mem List.not_mem_nil
  | last has _ _ =>
    intro a mem
    obtain rfl := List.mem_singleton.mp mem
    rw [← has.id_eq]
    exact .refl
  | onward has _ ledger link _ ih =>
    intro a mem
    rcases List.mem_cons.mp mem with rfl | later
    · rw [← has.id_eq]
      exact .refl
    · -- the rest of the chain was there before the order was closed
      have rest := ih a later
      rw [ledger] at rest
      have before := rest.lift (fun id => id) fun _ _ => Ledger.Leads.of_close has.stored
      exact before.head ⟨_, has.stored, Order.link_of_sibling? link⟩

/-- **No order is asked for twice**, since what was asked for is closed when the walk goes
on. -/
theorem Walk.once (h : Walk user id d asked d') : (asked.map (·.id)).Nodup := by
  induction h with
  | rest _ _ => exact List.nodup_nil
  | last _ _ _ => exact List.nodup_singleton _
  | onward has _ ledger _ later ih =>
    refine List.nodup_cons.mpr ⟨fun again => ?_, ih⟩
    obtain ⟨a, mem, same⟩ := List.mem_map.mp again
    have stillOpen := (later.hasOpen a mem).2
    rw [ledger] at stillOpen
    have apart := (stillOpen.of_close has.stored).1
    exact apart (same.trans has.id_eq)

/-- **A walk has no more steps than the user has open orders.** -/
theorem Walk.bounded (h : Walk user id d asked d') :
    asked.length ≤ (d.store.ledger.openOf user).length := by
  have among : asked.map (·.id) ⊆ (d.store.ledger.openOf user).map (·.id) := by
    intro id listed
    obtain ⟨a, mem, rfl⟩ := List.mem_map.mp listed
    exact List.mem_map.mpr ⟨a.order, (h.hasOpen a mem).2.mem_openOf, rfl⟩
  have most := (List.subperm_of_subset h.once among).length_le
  rwa [List.length_map, List.length_map] at most

/-! ## The operations -/

/-- A cancel that breaks off, by what it asked for. -/
theorem walk_of_error {e : Failure} (h : cancelOne user id d = (.error e, d')) :
    ∃ asked, Walk user id d asked d' := by
  have ends := cancelsOne user id d
  rw [h] at ends
  cases ends with
  | unasked stuck reads => exact ⟨[], .rest stuck reads.commands⟩
  | refused has said idle => exact ⟨_, .last has said.commands (.inl idle.ledger)⟩

/-- A cancel that closes an order, and a walk from its sibling on, if it has one. -/
theorem walk_of_ok {r : Retired} {d₁ : Desk} (h : cancelOne user id d = (.ok r, d₁))
    (alone : r.linked = none → d' = d₁)
    (later : ∀ next, r.linked = some next → ∃ asked, Walk user next d₁ asked d') :
    ∃ asked, Walk user id d asked d' := by
  have ends := cancelsOne user id d
  rw [h] at ends
  cases ends with
  | @closed o _ _ _ has said ledger incidents =>
    cases linked : o.sibling? with
    | none =>
      rw [alone linked]
      exact ⟨_, .last has said.commands (.inr linked)⟩
    | some next =>
      obtain ⟨asked, rest⟩ := later next linked
      exact ⟨_, .onward has said.commands ledger linked rest⟩

/-- **The cascade is a walk.** -/
theorem walk_cascade (user linked : String) (d : Desk) :
    ∃ asked, Walk user linked d asked (cascade user linked d).2 := by
  fun_induction cascade user linked d with
  | case1 linked d missing =>
    refine ⟨[], .rest (fun o has => ?_) rfl⟩
    rw [has.owned] at missing
    cases missing
  | case2 linked d o owned e unread =>
    refine ⟨[], .rest (fun o has => ?_) rfl⟩
    obtain ⟨s, read, -⟩ := has.read
    rw [has.owned] at owned
    cases owned
    rw [unread] at read
    cases read
  | case3 linked d o owned status read closed =>
    refine ⟨[], .rest (fun o has => ?_) rfl⟩
    obtain ⟨s, read', isOpen⟩ := has.read
    rw [has.owned] at owned
    cases owned
    rw [read] at read'
    cases read'
    rw [isOpen] at closed
    cases closed
  | case4 linked d o owned status read isOpen e d' canceled =>
    rw [Ledger.id_of_findOwned? owned] at canceled
    obtain ⟨asked, walk⟩ := walk_of_error canceled
    exact ⟨asked, walk.notify _⟩
  | case5 linked d o owned status read isOpen ticket d' canceled =>
    rw [Ledger.id_of_findOwned? owned] at canceled
    exact walk_of_ok canceled (fun _ => rfl) fun _ none => by cases none
  | case6 linked d o owned status read isOpen ticket next d' canceled ih =>
    rw [Ledger.id_of_findOwned? owned] at canceled
    refine walk_of_ok canceled (fun none => by cases none) fun next' same => ?_
    obtain rfl := Option.some.inj same
    exact ih

end

/-- **Cancels follow links**: what was asked for between two states of the desk, when one
order of a user was canceled or filled. The walk starts from that order or from its
sibling, if there is one. -/
structure FollowsLinks (user id : String) (start : Option String) (d : Desk)
    (asked : List Asked) (d' : Desk) : Prop where
  /-- Nothing else were the venues told to do. -/
  commands : d'.floor.commands = d.floor.commands ++ asked.map (·.command)
  /-- It was asked for on a walk along the links. -/
  walk : ∀ first ∈ start, Walk user first d asked d'
  /-- Without a start nothing was asked for. -/
  unasked : start = none → asked = []
  /-- Every order was an open one of the user when it was asked for. -/
  isOpen : ∀ a ∈ asked, a.ledger.HasOpen user a.id a.order
  /-- It was so from the beginning, and its row had not changed since. -/
  wasOpen : ∀ a ∈ asked, d.store.ledger.HasOpen user a.id a.order
  /-- Every order is on the chain of links that starts with the order. -/
  onChain : ∀ a ∈ asked, Relation.ReflTransGen d.store.ledger.Leads id a.id
  /-- No order was asked for twice. -/
  once : (asked.map (·.id)).Nodup
  /-- No more was asked for than the user had open orders. -/
  bounded : asked.length ≤ (d.store.ledger.openOf user).length

variable {user id : String} {d d' : Desk}

/-- Nothing at all was asked for. -/
theorem followsLinks_nil (user id : String) (d : Desk) : FollowsLinks user id none d [] d where
  commands := (List.append_nil _).symm
  walk _ wrong := nomatch wrong
  unasked _ := rfl
  isOpen _ mem := absurd mem List.not_mem_nil
  wasOpen _ mem := absurd mem List.not_mem_nil
  onChain _ mem := absurd mem List.not_mem_nil
  once := List.nodup_nil
  bounded := Nat.zero_le _

/-- **Cancels on a walk follow links**, when the walk starts on the chain of an order. -/
theorem Walk.followsLinks {start : String} {asked : List Asked}
    (reached : Relation.ReflTransGen d.store.ledger.Leads id start)
    (walk : Walk user start d asked d') : FollowsLinks user id (some start) d asked d' where
  commands := walk.commands
  walk first same := by
    obtain rfl := Option.some.inj same
    exact walk
  unasked wrong := nomatch wrong
  isOpen a mem := (walk.hasOpen a mem).1
  wasOpen a mem := (walk.hasOpen a mem).2
  onChain a mem := reached.trans (walk.onChain a mem)
  once := walk.once
  bounded := walk.bounded

/-- A cancel is a walk from the order on. -/
theorem walk_cancelOrder (user id : String) (d : Desk) :
    ∃ asked, Walk user id d asked (cancelOrder user id d).2 := by
  unfold cancelOrder
  rcases canceled : cancelOne user id d with ⟨e | ⟨ticket, _ | next⟩, d'⟩
  · exact walk_of_error canceled
  · exact walk_of_ok canceled (fun _ => rfl) fun _ none => by cases none
  · refine walk_of_ok canceled (fun none => by cases none) fun next' same => ?_
    obtain rfl := Option.some.inj same
    exact walk_cascade user next d'

/-- A fill asks for cancels on a walk from the sibling on. -/
theorem followsLinks_handleFill (user id : String) (d : Desk) :
    ∃ asked, FollowsLinks user id ((d.store.ledger.findOwned? user id).bind (·.sibling?)) d asked
      (handleFill user id d).2 := by
  unfold handleFill
  cases owned : d.store.ledger.findOwned? user id with
  | none => exact ⟨[], followsLinks_nil user id d⟩
  | some o =>
    dsimp only [Option.bind_some, Order.sibling?]
    cases linked : o.link.filter (!·.isEmpty) with
    | none => exact ⟨[], followsLinks_nil user id d⟩
    | some next =>
      have leads : d.store.ledger.Leads id next :=
        ⟨o, (Option.filter_eq_some_iff.mp owned).1, Order.link_of_sibling? linked⟩
      obtain ⟨asked, walk⟩ := walk_cascade user next d
      exact ⟨asked, walk.followsLinks (.single leads)⟩

/-- **A cancel and a fill ask for cancels along the links only**, however the links run: each
of them ends, with no more cancels than the user has open orders, and each cancel is for an
open order of the user, on the chain, in the words and at the venue of its own row, and for
each order at most once. -/
theorem cancels_follow_links (user id : String) (d : Desk) :
    (∃ asked, FollowsLinks user id (some id) d asked (cancelOrder user id d).2)
    ∧ ∃ asked, FollowsLinks user id ((d.store.ledger.findOwned? user id).bind (·.sibling?)) d
        asked (handleFill user id d).2 := by
  obtain ⟨asked, walk⟩ := walk_cancelOrder user id d
  exact ⟨⟨asked, walk.followsLinks .refl⟩, followsLinks_handleFill user id d⟩

end Desk

end OrderDesk

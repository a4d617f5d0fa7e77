import OrderDesk.Proofs.Closing
import OrderDesk.Proofs.Life
import OrderDesk.Proofs.Quotes

/-!
# What a fill does to the order that was filled

When one order of a pair is filled, the other one is canceled. Nothing is to be done to the
filled order itself: its venue has filled it, whether its own row says so yet or not.

But the other order is canceled like any order, and a cancel goes on along the links. The
link of the sibling leads back, to the order that was filled, and what stops the walk there
is the row of that order alone. A row that was brought up to date in time is closed, and then
the sibling is the only order that is asked for. A row that still says that the order is
open is canceled like that of every open order on the way: its venue is asked for it, and if
the venue confirms, the filled order is written down as canceled.

So a fill spares its order unless the order is `Endangered`, in every state that a desk can
come to, and then both orders of the pair are asked for.
-/

namespace OrderDesk

/-! ## Connections -/

namespace Floor

variable {ref : Reference} {user slug : String} {f g : Floor}

/-- **A venue that was reached once** is reached again, after whatever was said there. -/
theorem connects_again {α : Type} {c : Connection} {x : StateM Session α} {a : α} {h : Floor}
    (connected : connectAs ref user slug f = (.ok c, g))
    (spoken : onLine c.slug user x g = (a, h)) :
    ∃ c', (connectAs ref user slug h).1 = .ok c' := by
  obtain ⟨credential, f₁, checked, resolved⟩ := Run.of_bind_ok connected
  have known : ref.credential user slug = .ok credential := congrArg Prod.fst checked
  have connects : g.Connects slug user := by
    rcases resolve_cases slug user (some credential) f₁ with ⟨-, -, -, -, opens⟩ | ⟨e, -, failed, -⟩
    · rw [resolved] at opens
      exact (opens.connects _ _).mpr (.inr ⟨rfl, rfl⟩)
    · rw [resolved] at failed
      cases failed
  have again : h.access slug user = .ok () := by
    have left : (onLine c.slug user x g).2 = h := congrArg Prod.snd spoken
    rw [← left]
    exact access_of_connects (connects_absorb.mpr connects)
  rcases resolve_cases slug user (some credential) h with ⟨-, c', had, -, -⟩ | ⟨e, refused, -⟩
  · refine ⟨c', ?_⟩
    unfold connectAs
    rw [known]
    exact had
  · rw [again] at refused
    cases refused

/-- A venue that confirmed a cancel can be asked for another one. -/
theorem Confirms.connects {o : Order} (h : Confirms ref user o f g) :
    ∃ c, (connectAs ref user o.venue g).1 = .ok c := by
  obtain ⟨c, f₁, answer, connected, spoken, -⟩ := h.answered
  exact connects_again connected spoken

end Floor

namespace Ledger

/-- The order that a user's order is linked to. -/
def siblingOf? (l : Ledger) (user id : String) : Option String :=
  (l.findOwned? user id).bind (·.sibling?)

/-- An open order that is looked up for its sibling. -/
theorem HasOpen.siblingOf? {l : Ledger} {user id : String} {o : Order}
    (h : l.HasOpen user id o) : l.siblingOf? user id = o.sibling? := by
  unfold Ledger.siblingOf?
  rw [h.owned, Option.bind_some]

end Ledger

namespace Desk

variable {user id : String} {d d' : Desk}

/-! ## What is spared and what is not -/

/-- **A fill retires the sibling of its order**, or does nothing. -/
structure RetiresSibling (user id : String) (d d' : Desk) : Prop where
  /-- At most the sibling was asked for, once, in the words of its own row. -/
  commands : d'.floor.commands = d.floor.commands
    ∨ ∃ next y, d.store.ledger.siblingOf? user id = some next
      ∧ d.store.ledger.HasOpen user next y
      ∧ d'.floor.commands = d.floor.commands ++ [(Asked.mk d.store.ledger y).command]
  /-- The row of the order is as it was. -/
  spared : d'.store.ledger.find? id = d.store.ledger.find? id
  /-- So is every row but that of the sibling. -/
  others : ∀ other, d.store.ledger.siblingOf? user id ≠ some other →
    d'.store.ledger.find? other = d.store.ledger.find? other

/-- **An order is endangered by its own fill**: its row says that it is still open, and its
sibling, which is linked back to it, can be closed. -/
structure Endangered (user id : String) (d : Desk) (o : Order) (c : Closing) : Prop where
  stillOpen : d.store.ledger.HasOpen user id o
  sibling : o.sibling? = some c.id
  before : c.before = d
  closes : c.Holds user
  back : c.order.sibling? = some id

/-- **A walk that begins at no open order** does nothing. -/
theorem Closes.of_not_open {cs : List Closing} {failed : Option Asked}
    (h : Closes user id d cs failed d') (none : ∀ o, ¬ d.store.ledger.HasOpen user id o) :
    Unmoved d d' := by
  cases h with
  | stuck _ unmoved => exact unmoved
  | failed has => exact absurd has (none _)
  | last holds => exact absurd holds.has (none _)
  | onward holds => exact absurd holds.has (none _)

/-- **A walk that begins at an open order** asks for it, when its venue can be reached, and
ends there when what it is linked to is not open. -/
theorem Closes.commands_of_open {cs : List Closing} {failed : Option Asked} {o : Order}
    (h : Closes user id d cs failed d') (has : d.store.ledger.HasOpen user id o)
    (connects : ∃ c, (Floor.connectAs d.reference user o.venue d.floor).1 = .ok c)
    (ends : ∀ next, o.sibling? = some next → ∀ x, ¬ d.store.ledger.HasOpen user next x) :
    d'.floor.commands = d.floor.commands ++ [(Asked.mk d.store.ledger o).command] := by
  cases h with
  | stuck stuck =>
    obtain ⟨e, unconnected⟩ := stuck o has
    obtain ⟨c, connected⟩ := connects
    rw [connected] at unconnected
    cases unconnected
  | failed has' commands =>
    obtain rfl := Option.some.inj (has.stored.symm.trans has'.stored)
    exact commands
  | last holds _ unmoved =>
    obtain rfl := Option.some.inj (has.stored.symm.trans holds.has.stored)
    rw [unmoved.commands]
    exact holds.confirmed.said.commands
  | onward holds link later =>
    obtain rfl := Option.some.inj (has.stored.symm.trans holds.has.stored)
    rw [(later.of_not_open fun x again => ?_).commands]
    · exact holds.confirmed.said.commands
    · rw [holds.ledger] at again
      exact ends _ link x (again.of_close holds.has.stored).2

/-- A fill is a cancel of the sibling, and what is made of a failure makes no difference. -/
theorem unmoved_handleFill {next : String}
    (link : d.store.ledger.siblingOf? user id = some next) :
    Unmoved (cancelOrder user next d).2 (handleFill user id d).2 := by
  obtain ⟨o, owned, sibling⟩ := Option.bind_eq_some_iff.mp link
  unfold handleFill
  rw [owned]
  dsimp only
  rw [show o.link.filter (!·.isEmpty) = some next from sibling]
  exact (cascade_cancelOrder user next d).2

/-- The fill of an order without a sibling does nothing. -/
theorem handleFill_of_alone (alone : d.store.ledger.siblingOf? user id = none) :
    (handleFill user id d).2 = d := by
  unfold handleFill
  cases owned : d.store.ledger.findOwned? user id with
  | none => rfl
  | some o =>
    unfold Ledger.siblingOf? at alone
    rw [owned, Option.bind_some] at alone
    dsimp only
    rw [show o.link.filter (!·.isEmpty) = none from alone]

/-- **A sibling that was closed, and nothing after it**: one command and one row tell of it. -/
theorem RetiresSibling.of_closed {c : Closing}
    (link : c.before.store.ledger.siblingOf? user id = some c.id) (apart : c.id ≠ id)
    (holds : c.Holds user) (unmoved : Unmoved c.after d') :
    RetiresSibling user id c.before d' := by
  have others : ∀ other, other ≠ c.id →
      d'.store.ledger.find? other = c.before.store.ledger.find? other := by
    intro other apart
    rw [unmoved.ledger, holds.ledger]
    exact Ledger.find?_close_other _ apart
  refine ⟨.inr ⟨c.id, c.order, link, holds.has, ?_⟩, others id apart.symm, ?_⟩
  · rw [unmoved.commands]
    exact holds.confirmed.said.commands
  · exact fun other no => others other fun same => no (same ▸ link)

/-! ## Pairs -/

section

variable (answered : LinksAnswered d.store.ledger.rows)

include answered

/-- **A sibling is linked back**, when it is linked to anything, and it is another order. -/
theorem back_of_answered {next : String} {y : Order}
    (link : d.store.ledger.siblingOf? user id = some next)
    (found : d.store.ledger.find? next = some y) :
    next ≠ id ∧ y.link = some id := by
  obtain ⟨o, owned, sibling⟩ := Option.bind_eq_some_iff.mp link
  have stored : d.store.ledger.find? id = some o := (Option.filter_eq_some_iff.mp owned).1
  have same : o.id = id := Ledger.id_of_find? stored
  obtain ⟨y', mem, found', answers⟩ :=
    answered o (Ledger.mem_of_find? stored) next (Order.link_of_sibling? sibling)
  subst same found'
  rw [Ledger.find?_of_mem mem] at found
  cases found
  exact ⟨answers.apart, answers.back⟩

/-- **What a fill does when its order is not endangered.** -/
theorem retires_of_safe (safe : ∀ o c, ¬ Endangered user id d o c) :
    RetiresSibling user id d (handleFill user id d).2 := by
  cases link : d.store.ledger.siblingOf? user id with
  | none =>
    rw [handleFill_of_alone link]
    exact ⟨.inl rfl, rfl, fun _ _ => rfl⟩
  | some next =>
    obtain ⟨cs, failed, closes, -⟩ := closes_cancelOrder user next d
    replace closes := closes.unmoved (unmoved_handleFill link)
    cases closes with
    | stuck _ unmoved =>
      refine ⟨.inl unmoved.commands, ?_, fun other _ => ?_⟩ <;> rw [unmoved.ledger]
    | failed has commands ledger =>
      refine ⟨.inr ⟨next, _, link, has, commands⟩, ?_, fun other _ => ?_⟩ <;> rw [ledger]
    | last holds alone unmoved =>
      exact .of_closed link (back_of_answered answered link holds.has.stored).1 holds unmoved
    | @onward next' _ c _ _ holds back later =>
      obtain ⟨apart, linked⟩ := back_of_answered answered link holds.has.stored
      refine .of_closed link apart holds (later.of_not_open fun o stillOpen => ?_)
      -- the walk goes on to the order itself, and an open row there would endanger it
      obtain rfl : next' = id := Option.some.inj ((Order.link_of_sibling? back).symm.trans linked)
      rw [holds.ledger] at stillOpen
      have wasOpen := (stillOpen.of_close holds.has.stored).2
      exact safe o c ⟨wasOpen, wasOpen.siblingOf?.symm.trans link, rfl, holds, back⟩

/-- Both orders of a pair are on one venue, so a venue that has confirmed the cancel of the
sibling can be asked for the endangered order too. -/
theorem Endangered.connects {o : Order} {c : Closing} (h : Endangered user id d o c) :
    ∃ n, (Floor.connectAs c.after.reference user o.venue c.after.floor).1 = .ok n := by
  obtain ⟨stillOpen, sibling, rfl, holds, -⟩ := h
  obtain ⟨y, mem, found, answers⟩ := answered o (Ledger.mem_of_find? stillOpen.stored) c.id
    (Order.link_of_sibling? sibling)
  have same : y = c.order := by
    have stored := Ledger.find?_of_mem mem
    rw [found, holds.has.stored] at stored
    exact (Option.some.inj stored).symm
  rw [← answers.sameBook.venue, same, holds.only]
  exact holds.confirmed.connects

/-- **What a fill does when its order is endangered**: both orders of the pair are asked
for. -/
theorem commands_of_endangered {o : Order} {c : Closing} (h : Endangered user id d o c) :
    (handleFill user id d).2.floor.commands
      = d.floor.commands ++ [c.asked.command, (Asked.mk d.store.ledger o).command] := by
  have connects := Endangered.connects answered h
  obtain ⟨stillOpen, sibling, rfl, holds, back⟩ := h
  have link := stillOpen.siblingOf?.trans sibling
  have apart := (back_of_answered answered link holds.has.stored).1
  have stays : c.after.store.ledger.find? id = some o := by
    rw [holds.ledger, Ledger.find?_close_other _ apart.symm, stillOpen.stored]
  have isClosed : ∀ x, ¬ c.after.store.ledger.HasOpen user c.id x := by
    intro x again
    rw [holds.ledger] at again
    exact (again.of_close holds.has.stored).1 rfl
  obtain ⟨cs, failed, closes, -⟩ := closes_cancelOrder user id c.after
  have second := closes.commands_of_open ⟨stays, stillOpen.owner, stillOpen.isOpen⟩
    connects fun next link' => Option.some.inj (sibling.symm.trans link') ▸ isClosed
  have first := holds.confirmed.said.commands
  have whole : (cancelOrder user c.id c.before).2 = (cascade user id c.after).2 := by
    unfold cancelOrder
    rw [cancelOne_of_holds holds, back]
  rw [(unmoved_handleFill link).commands, whole, (cascade_cancelOrder user id c.after).2.commands,
    second, first, List.append_assoc]
  rfl

end

/-- **A fill spares its order exactly when the order is not endangered.** In every state that
a desk can come to, a fill asks for the sibling at most and changes no other row, unless the
row of the order says that it is still open and its sibling can be closed. Then the venue is
asked to cancel both of them, the sibling first and then the very order that was filled. -/
theorem fill_spares_order_iff (events : List Event) (user id : String) :
    (RetiresSibling user id (life events) (handleFill user id (life events)).2
      ↔ ∀ o c, ¬ Endangered user id (life events) o c)
    ∧ ∀ o c, Endangered user id (life events) o c →
        (handleFill user id (life events)).2.floor.commands = (life events).floor.commands
          ++ [c.asked.command, (Asked.mk (life events).store.ledger o).command] := by
  have answered : LinksAnswered (life events).store.ledger.rows := linksKept_foldl events {} .nil
  refine ⟨⟨fun retires o c endangered => ?_, retires_of_safe answered⟩,
    fun o c => commands_of_endangered answered⟩
  -- two commands are neither none nor one
  have two := congrArg List.length (commands_of_endangered answered endangered)
  rw [List.length_append, List.length_cons, List.length_cons, List.length_nil] at two
  rcases retires.commands with none | ⟨next, y, -, -, one⟩
  · rw [none] at two
    omega
  · rw [one, List.length_append, List.length_cons, List.length_nil] at two
    omega

/-- A life in which one pair of orders is placed, on a small desk. -/
def ofOnePair : List Event :=
  [.change (small [] {}).reference (small [] {}).floor {}, .place (.byHand onePair "u1")]

/-- **A filled order can be canceled by its own fill.** Both orders of the pair are new. When
the first one is reported as filled, two cancels go out, and its own row is canceled. -/
theorem fill_cancels_its_order :
    ((life ofOnePair).store.ledger.find? "id-1").map (·.status) = some "NEW"
    ∧ ((handleFill "u1" "id-1" (life ofOnePair)).2.store.ledger.find? "id-1").map (·.status)
      = some "CANCELED"
    ∧ (handleFill "u1" "id-1" (life ofOnePair)).2.floor.commands.length
      = (life ofOnePair).floor.commands.length + 2
    ∧ ¬ RetiresSibling "u1" "id-1" (life ofOnePair)
        (handleFill "u1" "id-1" (life ofOnePair)).2 := by
  have new : ((life ofOnePair).store.ledger.find? "id-1").map (·.status) = some "NEW" := by
    decide +kernel
  have canceled : ((handleFill "u1" "id-1" (life ofOnePair)).2.store.ledger.find? "id-1").map
      (·.status) = some "CANCELED" := by
    decide +kernel
  refine ⟨new, canceled, by decide +kernel, fun retires => ?_⟩
  rw [retires.spared, new] at canceled
  exact absurd canceled (by decide)

end Desk

end OrderDesk

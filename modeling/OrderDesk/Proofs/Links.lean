import OrderDesk.Proofs.Writing

/-!
# Links between orders

When an order that is linked to another one is filled or canceled, the other one is
canceled. This is safe only when links come in pairs: the order that is linked to is there,
it is linked back, and it is on the same book of the same user. A list of rows has this
property when every link in it is answered *within* it. That is why the property can be put
together: rows that are written together are written with the answers to their links, and
rows that were written earlier need no later ones.
-/

namespace OrderDesk

namespace Order

/-- The row is about an order of a context on a side of its book. -/
structure IsAbout (o : Order) (ctx : Context) (side : Side) : Prop where
  user : o.user = ctx.user
  venue : o.venue = ctx.slug
  baseCoin : o.baseCoin = some ctx.base.id
  quoteCoin : o.quoteCoin = some ctx.quote.id
  side : o.side = side.name

/-- A row for a leg is about an order on the side of the leg. -/
theorem IsFor.isAbout {o : Order} {ctx : Context} {leg : Leg} {ack : Ack}
    (h : o.IsFor ctx leg ack) : o.IsAbout ctx leg.side :=
  ⟨h.user, h.venue, h.baseCoin, h.quoteCoin, h.side⟩

/-- Two rows are on one side of one book of one user. -/
structure SameBook (x y : Order) : Prop where
  user : y.user = x.user
  venue : y.venue = x.venue
  baseCoin : y.baseCoin = x.baseCoin
  quoteCoin : y.quoteCoin = x.quoteCoin
  side : y.side = x.side

theorem IsAbout.sameBook {x y : Order} {ctx : Context} {side : Side} (hx : x.IsAbout ctx side)
    (hy : y.IsAbout ctx side) : x.SameBook y :=
  ⟨hy.user.trans hx.user.symm, hy.venue.trans hx.venue.symm,
    hy.baseCoin.trans hx.baseCoin.symm, hy.quoteCoin.trans hx.quoteCoin.symm,
    hy.side.trans hx.side.symm⟩

theorem SameBook.symm {x y : Order} (h : x.SameBook y) : y.SameBook x :=
  ⟨h.user.symm, h.venue.symm, h.baseCoin.symm, h.quoteCoin.symm, h.side.symm⟩

theorem SameBook.trans {x y z : Order} (h : x.SameBook y) (k : y.SameBook z) : x.SameBook z :=
  ⟨k.user.trans h.user, k.venue.trans h.venue, k.baseCoin.trans h.baseCoin,
    k.quoteCoin.trans h.quoteCoin, k.side.trans h.side⟩

/-- **A row answers another one that is linked to it**: it is another row, linked back, on
the same side of the same book of the same user. -/
structure Answers (y x : Order) : Prop where
  apart : y.id ≠ x.id
  back : y.link = some x.id
  sameBook : x.SameBook y

end Order

/-- **Every link is answered**: whenever a row is linked, the row it is linked to is among
them and answers it. -/
def LinksAnswered (rows : List Order) : Prop :=
  ∀ x ∈ rows, ∀ id, x.link = some id → ∃ y ∈ rows, y.id = id ∧ y.Answers x

namespace LinksAnswered

variable {rows rows' : List Order}

theorem nil : LinksAnswered [] := by
  intro x mem
  cases mem

/-- Rows without links. -/
theorem of_unlinked (h : ∀ x ∈ rows, x.link = none) : LinksAnswered rows := by
  intro x mem id linked
  rw [h x mem] at linked
  cases linked

/-- **Rows that are written later** do not touch the answers to earlier links. -/
theorem append (h : LinksAnswered rows) (h' : LinksAnswered rows') :
    LinksAnswered (rows ++ rows') := by
  intro x mem id linked
  rcases List.mem_append.mp mem with earlier | later
  · obtain ⟨y, there, found⟩ := h x earlier id linked
    exact ⟨y, List.mem_append_left _ there, found⟩
  · obtain ⟨y, there, found⟩ := h' x later id linked
    exact ⟨y, List.mem_append_right _ there, found⟩

/-- Two rows on one book that are linked to each other. -/
theorem pair {a b : Order} (apart : a.id ≠ b.id) (forth : a.link = some b.id)
    (back : b.link = some a.id) (same : a.SameBook b) : LinksAnswered [a, b] := by
  intro x mem id linked
  rcases List.mem_cons.mp mem with rfl | last
  · refine ⟨b, List.mem_cons_of_mem _ (List.mem_singleton.mpr rfl), ?_, apart.symm, back, same⟩
    exact Option.some.inj (forth.symm.trans linked)
  · obtain rfl := List.mem_singleton.mp last
    refine ⟨a, List.mem_cons_self .., ?_, apart, forth, same.symm⟩
    exact Option.some.inj (back.symm.trans linked)

/-- **A change that leaves identifiers, links and books alone** leaves links answered. -/
theorem map {f : Order → Order} (ids : ∀ o, (f o).id = o.id)
    (links : ∀ o, (f o).link = o.link) (books : ∀ o : Order, o.SameBook (f o))
    (h : LinksAnswered rows) : LinksAnswered (rows.map f) := by
  intro x mem id linked
  obtain ⟨o, there, rfl⟩ := List.mem_map.mp mem
  obtain ⟨y, mem', found, answers⟩ := h o there id ((links o).symm.trans linked)
  refine ⟨f y, List.mem_map_of_mem mem', (ids y).trans found, ?_, ?_, ?_⟩
  · rw [ids, ids]
    exact answers.apart
  · rw [links, ids]
    exact answers.back
  · exact (books o).symm.trans (answers.sameBook.trans (books y))

end LinksAnswered

namespace Ledger

variable {l : Ledger} {x x' : Order}

/-- Rows with one identifier are one row. -/
theorem eq_of_id_eq (mem : x ∈ l.rows) (mem' : x' ∈ l.rows) (same : x.id = x'.id) : x = x' := by
  have found := find?_of_mem mem
  rw [same, find?_of_mem mem'] at found
  exact (Option.some.inj found).symm

/-- **No row is the answer to two links**: rows that are linked to one row are one row. -/
theorem eq_of_link_eq (h : LinksAnswered l.rows) (mem : x ∈ l.rows) (mem' : x' ∈ l.rows)
    {id : String} (linked : x.link = some id) (linked' : x'.link = some id) : x = x' := by
  obtain ⟨y, there, found, answers⟩ := h x mem id linked
  obtain ⟨y', there', found', answers'⟩ := h x' mem' id linked'
  -- both links are answered by one row, and that row is linked back only once
  have oneAnswer : y = y' := eq_of_id_eq there there' (found.trans found'.symm)
  subst oneAnswer
  exact eq_of_id_eq mem mem' (Option.some.inj (answers.back.symm.trans answers'.back))

end Ledger

end OrderDesk

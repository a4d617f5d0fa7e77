import Mathlib.Data.List.Nodup
import OrderDesk.Desk.Query
import OrderDesk.Run

/-!
# What a question about orders is answered with

A question restricts orders by status, side and type, by whether they are manual, and in their
number; each restriction may be left out, and one without words is the same as none. The answer
is every order of the user that passes all restrictions, once, the newest first, up to the limit
(`Store.orders_are_those_asked_for`). The question for the open orders has no restrictions of its
own: it is answered with the orders that can be canceled.

A limit is handed to the store as it is, and the store's whole numbers have 64 bits. A limit that
is longer is a fault, although so many orders were asked for that it would not cut any
(`Store.not_every_limit_is_kept`).
-/

namespace OrderDesk

/-! ## Words -/

/-- Leaving out repetitions leaves no word out. -/
theorem mem_eraseReps_iff {ws : List String} {w : String} : w ∈ ws.eraseReps ↔ w ∈ ws := by
  have loop (r : String) (rest done : List String) :
      w ∈ List.eraseRepsBy.loop (· == ·) r rest done ↔ w ∈ done ∨ w ∈ r :: rest := by
    induction rest generalizing r done with
    | nil => simp [List.eraseRepsBy.loop]
    | cons next rest ih =>
      rw [List.eraseRepsBy.loop]
      split
      next same => simp [ih, beq_iff_eq.mp same]
      next => simp [ih, or_assoc, or_left_comm]
  cases ws with
  | nil => exact .rfl
  | cons first rest => exact (loop first rest []).trans (or_iff_right List.not_mem_nil)

namespace FilterText

variable {α : Type} [Vocabulary α] {f : Option FilterText}

/-- The words of a restriction, none when it is left out. -/
def tokens (f : Option FilterText) : List String := (f.map words).getD []

/-- **A restriction allows a word** when it has that word or has none. -/
def Allows (f : Option FilterText) (word : String) : Prop := tokens f = [] ∨ word ∈ tokens f

instance (f : Option FilterText) (word : String) : Decidable (Allows f word) :=
  inferInstanceAs (Decidable (_ ∨ _))

/-- Every word of a restriction names a member of a vocabulary. -/
def Names (α : Type) [Vocabulary α] (f : Option FilterText) : Prop :=
  ∀ w ∈ tokens f, w ∈ Vocabulary.names α

/-- Putting words in order leaves no word out. -/
theorem mem_canonical {ws : List String} {w : String} : w ∈ canonical ws ↔ w ∈ ws := by
  rw [canonical, mem_eraseReps_iff, List.mem_mergeSort]

theorem canonical_eq_nil_iff {ws : List String} : canonical ws = [] ↔ ws = [] := by
  simp only [List.eq_nil_iff_forall_not_mem, mem_canonical]

/-- A word of a restriction that names no member. -/
def isForeign (α : Type) [Vocabulary α] (w : String) : Bool := !(Vocabulary.names α).contains w

/-- What a restriction means, by its words in order. -/
theorem parse_eq : parse α f = match canonical (tokens f) with
    | [] => .ok none
    | w :: rest => match (w :: rest).filter (isForeign α) with
      | [] => .ok (some (w :: rest))
      | invalid => .error invalid := by
  cases f with
  | none =>
    rw [show canonical (tokens none) = [] from canonical_eq_nil_iff.mpr rfl]
    rfl
  | some t =>
    show parse α (some t) = match canonical t.words with | [] => _ | w :: rest => _
    unfold parse
    rw [Option.map_some, Option.map_some]
    cases canonical t.words <;> rfl

/-- A restriction without words means nothing. -/
theorem parse_of_silent (silent : tokens f = []) : parse α f = .ok none := by
  rw [parse_eq, canonical_eq_nil_iff.mpr silent]

/-- **A restriction means its words in order**, when they all name members. -/
theorem parse_of_known (spoken : tokens f ≠ []) (names : Names α f) :
    parse α f = .ok (some (canonical (tokens f))) := by
  have known : (canonical (tokens f)).filter (isForeign α) = [] := by
    refine List.filter_eq_nil_iff.mpr fun w mem => ?_
    simpa [isForeign] using names w (mem_canonical.mp mem)
  obtain ⟨first, rest, ordered⟩ :=
    List.exists_cons_of_ne_nil (mt canonical_eq_nil_iff.mp spoken)
  rw [ordered] at known
  rw [parse_eq, ordered]
  dsimp only
  rw [known]

/-- **A restriction is refused** with those of its words that name no member. -/
theorem parse_of_foreign (foreign : ¬ Names α f) :
    parse α f = .error ((canonical (tokens f)).filter (isForeign α)) := by
  obtain ⟨w, mem, unknown⟩ : ∃ w ∈ tokens f, w ∉ Vocabulary.names α := by
    simpa [Names] using foreign
  have among : w ∈ (canonical (tokens f)).filter (isForeign α) :=
    List.mem_filter.mpr ⟨mem_canonical.mpr mem, by simpa [isForeign] using unknown⟩
  rw [parse_eq]
  cases ordered : canonical (tokens f) with
  | nil => exact absurd (ordered ▸ among) List.not_mem_nil
  | cons first rest =>
    dsimp only
    cases invalid : (first :: rest).filter (isForeign α) with
    | nil => exact absurd (ordered ▸ among) (invalid ▸ List.not_mem_nil)
    | cons bad others => rfl

theorem parse_of_not_names (foreign : ¬ Names α f) : ∃ invalid, parse α f = .error invalid :=
  ⟨_, parse_of_foreign foreign⟩

/-- **What a restriction means**: a word passes it when the restriction allows the word. -/
theorem parse_of_names (names : Names α f) :
    ∃ r, parse α f = .ok r ∧ ∀ word, OrderQuery.admits r word ↔ Allows f word := by
  by_cases silent : tokens f = []
  · exact ⟨none, parse_of_silent silent, fun word => iff_of_true rfl (.inl silent)⟩
  · refine ⟨_, parse_of_known silent names, fun word => ?_⟩
    rw [Allows, or_iff_right silent, ← mem_canonical]
    obtain ⟨first, rest, ordered⟩ :=
      List.exists_cons_of_ne_nil (mt canonical_eq_nil_iff.mp silent)
    rw [ordered]
    exact List.contains_iff_mem

end FilterText

/-! ## Restrictions -/

namespace OrderFilters

variable {f g : OrderFilters}

/-- **Restrictions are valid** when every word names a member of the vocabulary of its column. -/
structure Valid (f : OrderFilters) : Prop where
  status : FilterText.Names OrderStatus f.status
  side : FilterText.Names Side f.side
  type : FilterText.Names OrderType f.type

/-- **An order passes all restrictions.** -/
def Matches (f : OrderFilters) (o : Order) : Prop :=
  FilterText.Allows f.status o.status ∧ FilterText.Allows f.side o.side
    ∧ FilterText.Allows f.type o.type ∧ (f.isManual = none ∨ f.isManual = some o.isManual)

instance (f : OrderFilters) : DecidablePred f.Matches := fun _ =>
  inferInstanceAs (Decidable (_ ∧ _ ∧ _ ∧ (_ ∨ _)))

/-- The store can hold the limit. -/
def Storable (f : OrderFilters) : Prop :=
  ∀ n, f.limit = some n → -(Number.twoTo 63 : Int) ≤ n ∧ n < (Number.twoTo 63 : Int)

theorem storable_iff {f : OrderFilters} :
    f.Storable ↔ f.limit.any (Number.isOutside 63) = false := by
  unfold Storable
  cases f.limit with
  | none => simp
  | some n =>
    simp only [Option.some.injEq, forall_eq', Option.any_some, Number.isOutside,
      Int.ofNat_eq_natCast, Bool.or_eq_false_iff, decide_eq_false_iff_not, Int.not_lt, Int.not_le]

/-- **Restrictions are added**: what was restricted is so in the same way. -/
structure Tightens (g f : OrderFilters) : Prop where
  status : g.status = f.status ∨ FilterText.tokens f.status = []
  side : g.side = f.side ∨ FilterText.tokens f.side = []
  type : g.type = f.type ∨ FilterText.tokens f.type = []
  isManual : g.isManual = f.isManual ∨ f.isManual = none

/-- An order that passes more restrictions passes fewer. -/
theorem Tightens.matches (tightens : g.Tightens f) {o : Order} (passes : g.Matches o) :
    f.Matches o := by
  obtain ⟨status, side, type, isManual⟩ := passes
  refine ⟨?_, ?_, ?_, ?_⟩
  · exact tightens.status.elim (fun same => same ▸ status) .inl
  · exact tightens.side.elim (fun same => same ▸ side) .inl
  · exact tightens.type.elim (fun same => same ▸ type) .inl
  · exact tightens.isManual.elim (fun same => same ▸ isManual) .inl

/-- **The query that valid restrictions stand for** lets the same orders pass. -/
theorem toQuery_of_valid (valid : f.Valid) :
    ∃ q, f.toQuery = .ok q ∧ q.limit = f.limit ∧ ∀ o, q.selects o ↔ f.Matches o := by
  obtain ⟨statuses, status, byStatus⟩ := FilterText.parse_of_names valid.status
  obtain ⟨sides, side, bySide⟩ := FilterText.parse_of_names valid.side
  obtain ⟨types, type, byType⟩ := FilterText.parse_of_names valid.type
  refine ⟨⟨statuses, sides, types, f.isManual, f.limit⟩, ?_, rfl, fun o => ?_⟩
  · simp only [toQuery, column, status, side, type]
    rfl
  · simp only [OrderQuery.selects, Bool.and_eq_true, byStatus, bySide, byType, Matches, and_assoc]
    cases f.isManual with
    | none => simp
    | some manual => simp [Option.all_some, beq_iff_eq]

/-- **Restrictions that are not valid** are refused. -/
theorem toQuery_of_not_valid (invalid : ¬ f.Valid) :
    ∃ name words, f.toQuery = .error (.refused (.invalidFilter name words)) := by
  by_cases status : FilterText.Names OrderStatus f.status
  · obtain ⟨statuses, status', -⟩ := FilterText.parse_of_names status
    by_cases side : FilterText.Names Side f.side
    · obtain ⟨sides, side', -⟩ := FilterText.parse_of_names side
      have type : ¬ FilterText.Names OrderType f.type := fun type => invalid ⟨status, side, type⟩
      obtain ⟨words, type'⟩ := FilterText.parse_of_not_names type
      refine ⟨"order type", words, ?_⟩
      simp only [toQuery, column, status', side', type']
      rfl
    · obtain ⟨words, side'⟩ := FilterText.parse_of_not_names side
      refine ⟨"side", words, ?_⟩
      simp only [toQuery, column, status', side']
      rfl
  · obtain ⟨words, status'⟩ := FilterText.parse_of_not_names status
    refine ⟨"status", words, ?_⟩
    simp only [toQuery, column, status']
    rfl

end OrderFilters

/-! ## Answers -/

namespace OrderQuery

variable {limit : Option Int} {rows : List Order}

/-- A limit that is not positive is none. -/
theorem cut_of_nonpos (unlimited : ∀ n, limit = some n → n ≤ 0) : cut limit rows = rows := by
  cases limit with
  | none => rfl
  | some n => exact if_neg (Int.not_lt.mpr (unlimited n rfl))

theorem cut_of_pos {n : Int} (positive : 0 < n) : cut (some n) rows = rows.take n.toNat :=
  if_pos positive

theorem cut_sublist (limit : Option Int) (rows : List Order) : (cut limit rows).Sublist rows := by
  unfold cut
  split
  · split
    · exact List.take_sublist _ _
    · exact List.Sublist.refl _
  · exact List.Sublist.refl _

end OrderQuery

namespace Ledger

/-- **Orders are an answer**: they are those rows that pass, each once, the newest first, up to a
limit that is positive, and what the limit leaves out is not newer than what it leaves. -/
structure Answers (l : Ledger) (passes : Order → Prop) [DecidablePred passes] (limit : Option Int)
    (os : List Order) : Prop where
  once : (os.map (·.id)).Nodup
  mem : ∀ o ∈ os, o ∈ l.rows ∧ passes o
  newest : os.Pairwise fun a b => ¬ a.createdAt.before b.createdAt
  all : (∀ n, limit = some n → n ≤ 0) → ∀ o ∈ l.rows, passes o → o ∈ os
  limited : ∀ n, limit = some n → 0 < n → os.length = min n.toNat (l.rows.countP passes)
    ∧ ∀ o ∈ l.rows, passes o → o ∉ os → ∀ p ∈ os, ¬ p.createdAt.before o.createdAt

theorem newestFirst_perm (rows : List Order) : (newestFirst rows).Perm rows :=
  (List.mergeSort_perm _ _).trans (List.reverse_perm _)

theorem pairwise_newestFirst (rows : List Order) :
    (newestFirst rows).Pairwise fun a b => ¬ a.createdAt.before b.createdAt := by
  have sorted : (newestFirst rows).Pairwise fun a b =>
      (!a.createdAt.before b.createdAt) = true := by
    refine List.pairwise_mergeSort (fun a b c => ?_) (fun a b => ?_) _
    all_goals simp only [Stamp.before, Bool.or_eq_true, Bool.not_eq_true', decide_eq_false_iff_not]
    all_goals omega
  exact sorted.imp fun later => by simpa using later

/-- **The first rows are an answer**, when the rows that pass stand with the newest first. -/
theorem answers_cut {l : Ledger} {passes : Order → Prop} [DecidablePred passes] {rows : List Order}
    (perm : rows.Perm (l.rows.filter passes))
    (newest : rows.Pairwise fun a b => ¬ a.createdAt.before b.createdAt) (limit : Option Int) :
    l.Answers passes limit (OrderQuery.cut limit rows) := by
  have among (o : Order) : o ∈ rows ↔ o ∈ l.rows ∧ passes o := by
    rw [perm.mem_iff, List.mem_filter, decide_eq_true_eq]
  have once : (rows.map (·.id)).Nodup :=
    (perm.map _).nodup_iff.mpr (l.distinct.sublist (List.filter_sublist.map _))
  have part : (OrderQuery.cut limit rows).Sublist rows := OrderQuery.cut_sublist limit rows
  refine ⟨once.sublist (part.map _), fun o mem => (among o).mp (part.subset mem),
    newest.sublist part, fun unlimited o mem its => ?_, ?_⟩
  · rw [OrderQuery.cut_of_nonpos unlimited]
    exact (among o).mpr ⟨mem, its⟩
  · rintro n rfl positive
    rw [OrderQuery.cut_of_pos positive]
    refine ⟨?_, fun o mem its out p listed => ?_⟩
    · rw [List.length_take, perm.length_eq, List.countP_eq_length_filter]
    · have whole := List.take_append_drop n.toNat rows
      have left : o ∈ rows.drop n.toNat :=
        (List.mem_append.mp (whole.symm ▸ (among o).mpr ⟨mem, its⟩)).resolve_left out
      exact (List.pairwise_append.mp (whole.symm ▸ newest)).2.2 p listed o left

/-- **A query is answered.** -/
theorem answers_query (l : Ledger) (user : String) (q : OrderQuery) {passes : Order → Prop}
    [DecidablePred passes] (meant : ∀ o, passes o ↔ o.user = user ∧ q.selects o) :
    l.Answers passes q.limit (l.query user q) := by
  refine answers_cut ((newestFirst_perm _).trans (List.Perm.of_eq ?_)) (pairwise_newestFirst _) _
  refine List.filter_congr fun o _ => ?_
  rw [Bool.eq_iff_iff, Bool.and_eq_true, beq_iff_eq, decide_eq_true_eq, meant]

end Ledger

/-! ## Questions -/

namespace Store

variable {s : Store} {user : String} {f g : OrderFilters} {os : List Order}

/-- Restrictions that are not valid are refused, whatever else is asked. -/
theorem ordersOf_of_not_valid (s : Store) (user : String) (invalid : ¬ f.Valid) :
    ∃ name words, s.ordersOf user f = .error (.refused (.invalidFilter name words)) := by
  obtain ⟨name, words, refused⟩ := OrderFilters.toQuery_of_not_valid invalid
  refine ⟨name, words, ?_⟩
  rw [ordersOf, refused]
  rfl

/-- **A valid question is answered**, when the store can hold its limit. -/
theorem ordersOf_of_valid (s : Store) (user : String) (valid : f.Valid) (storable : f.Storable) :
    ∃ os, s.ordersOf user f = .ok os
      ∧ s.ledger.Answers (fun o => o.user = user ∧ f.Matches o) f.limit os := by
  obtain ⟨q, asked, limit, selects⟩ := OrderFilters.toQuery_of_valid valid
  refine ⟨s.ledger.query user q, ?_, ?_⟩
  · rw [OrderFilters.storable_iff, ← limit] at storable
    rw [ordersOf, asked]
    show (s.query user q).mapError Failure.fault = _
    rw [query, if_neg (by simp [storable])]
    rfl
  · rw [← limit]
    exact Ledger.answers_query s.ledger user q fun o => by rw [selects]

/-- A limit that the store cannot hold is a fault. -/
theorem ordersOf_of_not_storable (valid : f.Valid) (beyond : ¬ f.Storable) :
    s.ordersOf user f = .error (.fault .beyondStore) := by
  obtain ⟨q, asked, limit, -⟩ := OrderFilters.toQuery_of_valid valid
  rw [OrderFilters.storable_iff, Bool.not_eq_false, ← limit] at beyond
  rw [ordersOf, asked]
  show (s.query user q).mapError Failure.fault = _
  rw [query, if_pos beyond]
  rfl

/-- A question that is answered was valid, and the store could hold its limit. -/
theorem answers_of_ordersOf (answered : s.ordersOf user f = .ok os) :
    s.ledger.Answers (fun o => o.user = user ∧ f.Matches o) f.limit os := by
  by_cases valid : f.Valid
  · by_cases storable : f.Storable
    · obtain ⟨others, found, answers⟩ := ordersOf_of_valid s user valid storable
      cases answered.symm.trans found
      exact answers
    · cases answered.symm.trans (ordersOf_of_not_storable valid storable)
  · obtain ⟨_, _, refused⟩ := ordersOf_of_not_valid s user valid
    cases answered.symm.trans refused

/-- **A status is one of the open ones** exactly when it allows a cancel. -/
theorem admits_openStatuses_iff {status : String} :
    OrderQuery.admits (some Ledger.openStatuses) status
      ↔ ∃ st, OrderStatus.read status = .ok st ∧ st.isCancelable := by
  constructor
  · intro listed
    have either : status = OrderStatus.new.name ∨ status = OrderStatus.partiallyFilled.name := by
      simpa [OrderQuery.admits, Ledger.openStatuses] using listed
    rcases either with rfl | rfl
    · exact ⟨.new, rfl, rfl⟩
    · exact ⟨.partiallyFilled, rfl, rfl⟩
  · rintro ⟨st, named, cancelable⟩
    have name : st.name = status := by
      unfold OrderStatus.read Vocabulary.ofName? at named
      split at named
      next found =>
        cases named
        have same := List.find?_some found
        exact beq_iff_eq.mp same
      next => cases named
    rw [← name]
    cases st with
    | new | partiallyFilled => decide
    | filled | canceled | rejected | expired | pendingCancel => cases cancelable

/-- The question for the open orders is answered. -/
theorem answers_openOrdersOf (s : Store) (user : String) :
    s.ledger.Answers
      (fun o => o.user = user ∧ OrderQuery.admits (some Ledger.openStatuses) o.status) none
      (s.openOrdersOf user) := by
  refine Ledger.answers_query s.ledger user { statuses := some Ledger.openStatuses } fun o => ?_
  simp [OrderQuery.selects, OrderQuery.admits]

/-- **The orders of a user are those that were asked for.**

* A question is refused exactly when a word of a restriction names no member of its vocabulary.
* Else, when the store can hold the limit, it is answered with the orders of the user that pass
  all restrictions, each once, the newest first; a limit leaves as many as it can, and none that it
  leaves out is newer than one that it leaves. A limit that the store cannot hold is a fault.
* One more restriction never adds an order to an answer that no limit cut.
* The open orders are the orders of the user that can be canceled, each once, the newest first. -/
theorem orders_are_those_asked_for (s : Store) (user : String) (f : OrderFilters) :
    ((∃ complaint, s.ordersOf user f = .error (.refused complaint)) ↔ ¬ f.Valid)
    ∧ (f.Valid → f.Storable → ∃ os, s.ordersOf user f = .ok os
        ∧ s.ledger.Answers (fun o => o.user = user ∧ f.Matches o) f.limit os)
    ∧ (f.Valid → ¬ f.Storable → s.ordersOf user f = .error (.fault .beyondStore))
    ∧ (∀ g os fewer, f.limit = none → g.Tightens f →
        s.ordersOf user f = .ok os → s.ordersOf user g = .ok fewer → ∀ o ∈ fewer, o ∈ os)
    ∧ ((s.openOrdersOf user).map (·.id)).Nodup
    ∧ ((s.openOrdersOf user).Pairwise fun a b => ¬ a.createdAt.before b.createdAt)
    ∧ ∀ o, o ∈ s.openOrdersOf user ↔ o ∈ s.ledger.rows ∧ o.user = user
        ∧ ∃ st, OrderStatus.read o.status = .ok st ∧ st.isCancelable := by
  have opened := answers_openOrdersOf s user
  refine ⟨⟨?_, ?_⟩, ordersOf_of_valid s user, ordersOf_of_not_storable, ?_, opened.once,
    opened.newest, fun o => ?_⟩
  · rintro ⟨complaint, refused⟩ valid
    by_cases storable : f.Storable
    · obtain ⟨os, answered, -⟩ := ordersOf_of_valid s user valid storable
      cases refused.symm.trans answered
    · cases refused.symm.trans (ordersOf_of_not_storable valid storable)
  · intro invalid
    obtain ⟨name, words, refused⟩ := ordersOf_of_not_valid s user invalid
    exact ⟨_, refused⟩
  · intro g os fewer unlimited tightens answered answered' o mem
    obtain ⟨row, its, passes⟩ := (answers_of_ordersOf answered').mem o mem
    have uncut : ∀ n, f.limit = some n → n ≤ 0 := fun n some => by
      cases unlimited.symm.trans some
    exact (answers_of_ordersOf answered).all uncut o row ⟨its, tightens.matches passes⟩
  · rw [← admits_openStatuses_iff]
    exact ⟨opened.mem o, fun ⟨row, passes⟩ => opened.all nofun o row passes⟩

/-- **Not every limit is kept**: the store cannot hold one that needs more than 63 bits. -/
theorem not_every_limit_is_kept :
    OrderFilters.read [("limit", .whole 9223372036854775808)]
      = .good { OrderFilters.unrestricted with limit := some 9223372036854775808 }
    ∧ { OrderFilters.unrestricted with limit := some 9223372036854775808 }.Valid
    ∧ ({} : Store).ordersOf "user-1"
        { OrderFilters.unrestricted with limit := some 9223372036854775808 }
      = .error (.fault .beyondStore) :=
  ⟨rfl, ⟨nofun, nofun, nofun⟩, rfl⟩

end Store

end OrderDesk

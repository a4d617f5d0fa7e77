import Mathlib.Data.List.Forall2
import OrderDesk.Proofs.Telling

/-!
# Which markets are loaded

A connection keeps the markets that it loaded last, and fees are looked up in them. The answer
of a venue is read market by market, and any of them can turn out to be unreadable: its symbol
is missing, a limit is too large for a double, a precision is infinite. By then others have been
read, and what is kept must not become a mixture of the old answer and the new one.

It does not, because nothing is kept before everything is read. So the markets that are kept are
those of the last answer that was good throughout (`Session.markets_are_last_good`), whatever
else is asked, ordered or canceled over the connection, and however the venue changes.
-/

namespace OrderDesk

/-! ## Answers that are good throughout -/

namespace Market

variable {mode : PrecisionMode} {raw : List (String × Payload)} {listing : Listing}

/-- **A listing is what was written**: it has the same keys in the same order, and under each
key the market that was written there. -/
def IsReading (mode : PrecisionMode) (raw : List (String × Payload)) (listing : Listing) : Prop :=
  List.Forall₂ (fun written kept => kept.1 = written.1 ∧ read mode written.2 = .ok kept.2)
    raw listing

/-- All markets can be read when every single one can. -/
theorem readAll_eq_ok_iff : readAll mode raw = .ok listing ↔ IsReading mode raw listing := by
  unfold IsReading
  induction raw generalizing listing with
  | nil =>
    rw [List.forall₂_nil_left_iff]
    exact ⟨fun h => (Except.ok.inj h).symm, fun h => congrArg _ h.symm⟩
  | cons entry rest ih =>
    obtain ⟨key, p⟩ := entry
    rw [List.forall₂_cons_left_iff]
    constructor
    · intro h
      obtain ⟨market, isMarket, h⟩ := Run.ok_of_bind h
      obtain ⟨others, areOthers, h⟩ := Run.ok_of_bind h
      cases h
      exact ⟨_, _, ⟨rfl, isMarket⟩, ih.mp areOthers, rfl⟩
    · rintro ⟨⟨name, market⟩, others, ⟨rfl, isMarket⟩, areOthers, rfl⟩
      exact Run.bind_of_ok isMarket (Run.bind_of_ok (ih.mpr areOthers) rfl)

/-- A listing has the keys that were written, in their order. -/
theorem IsReading.keys (h : IsReading mode raw listing) :
    listing.map Prod.fst = raw.map Prod.fst := by
  induction h with
  | nil => rfl
  | cons same _ ih => rw [List.map_cons, List.map_cons, same.1, ih]

/-- **One market that cannot be read** is enough for the answer to be bad. -/
theorem readAll_fails_iff :
    (∃ e, readAll mode raw = .error e) ↔ ∃ entry ∈ raw, ∃ e, read mode entry.2 = .error e := by
  induction raw with
  | nil => simp [readAll]
  | cons entry rest ih =>
    obtain ⟨key, p⟩ := entry
    rw [List.exists_mem_cons_iff, ← ih]
    show (∃ e, (read mode p >>= fun market =>
      readAll mode rest >>= fun others => pure ((key, market) :: others)) = .error e) ↔ _
    cases read mode p with
    | error e => simp [bind, Except.bind]
    | ok market => cases readAll mode rest <;> simp [bind, Except.bind, pure, Except.pure]

end Market

namespace Venue

variable {v : Venue} {listing : Market.Listing}

/-- **A venue lists markets**: it answers when it is asked for them, and every single one in its
answer can be read. -/
structure ListsMarkets (v : Venue) (listing : Market.Listing) : Prop where
  answers : v.outage? .loadMarkets = none
  readable : Market.IsReading v.precision v.markets listing

/-- What a venue tells of its markets is what it lists. -/
theorem listing_eq_ok_iff : v.listing = .ok listing ↔ v.ListsMarkets listing := by
  unfold Venue.listing tells
  cases answers : v.outage? .loadMarkets with
  | some reason =>
    refine iff_of_false (fun h => by cases h) fun h => ?_
    rw [h.answers] at answers
    cases answers
  | none =>
    rw [Market.readAll_eq_ok_iff]
    exact ⟨fun reading => ⟨answers, reading⟩, fun h => h.readable⟩

/-- What a venue tells of its markets cannot be used when the call fails or one market is bad. -/
theorem listing_fails_iff :
    (∃ e, v.listing = .error e) ↔ (∃ reason, v.outage? .loadMarkets = some reason)
      ∨ v.outage? .loadMarkets = none
        ∧ ∃ entry ∈ v.markets, ∃ e, Market.read v.precision entry.2 = .error e := by
  rw [← Market.readAll_fails_iff]
  unfold Venue.listing tells
  cases v.outage? .loadMarkets <;> simp

end Venue

/-! ## What happens over a connection -/

namespace Session

/-- **What happens over a connection**: one of its calls is made, or the venue becomes another
one, in what it will answer and in what is out of order. -/
inductive Event where
  | fetchMarkets
  | fetchTicker (symbol : String)
  | fetchOrderBook (symbol : String) (depth : Int)
  | fetchBalance
  | fetchTradingFees
  | submit (i : Instruction)
  | cancel (id symbol : String)
  | close
  | turn (v : Venue)

/-- The session after an event, whether it succeeded or failed. -/
def Event.leaves (s : Session) : Event → Session
  | fetchMarkets => (Line.fetchMarkets s).2
  | fetchTicker symbol => (Line.fetchTicker symbol s).2
  | fetchOrderBook symbol depth => (Line.fetchOrderBook symbol depth s).2
  | fetchBalance => (Line.fetchBalance s).2
  | fetchTradingFees => (Line.fetchTradingFees s).2
  | submit i => (Line.submit i s).2
  | cancel id symbol => (Line.cancel id symbol s).2
  | close => (Line.close s).2
  | turn v => { s with venue := v }

/-- The session after several events. -/
def after (s : Session) (es : List Event) : Session := es.foldl Event.leaves s

/-- A connection to a venue that has just been made. -/
def opened (slug : String) (v : Venue) : Session where
  slug := slug
  venue := v
  markets := []
  journal := []
  notices := []

/-- **No answer was good** among those that the venue gave about its markets. -/
def NeverListed (s : Session) (es : List Event) : Prop :=
  ∀ before later, es = before ++ .fetchMarkets :: later →
    ¬ ∃ listing, (s.after before).venue.ListsMarkets listing

/-- **The last good answer** about the markets: the venue gave it at some moment, and no answer
was good after that. -/
def LastListed (s : Session) (es : List Event) (listing : Market.Listing) : Prop :=
  ∃ before later, es = before ++ .fetchMarkets :: later
    ∧ (s.after before).venue.ListsMarkets listing
    ∧ NeverListed (s.after (before ++ [.fetchMarkets])) later

section

variable {s : Session} {e : Event} {es : List Event} {listing : Market.Listing}

theorem NeverListed.cons (unlisted : e = .fetchMarkets → ¬ ∃ l, s.venue.ListsMarkets l)
    (h : NeverListed (e.leaves s) es) : NeverListed s (e :: es) := by
  intro before later split
  cases before with
  | nil => exact unlisted (List.cons.inj split).1
  | cons first before =>
    obtain ⟨rfl, rest⟩ := List.cons.inj split
    exact h before later rest

theorem LastListed.cons (h : LastListed (e.leaves s) es listing) :
    LastListed s (e :: es) listing := by
  obtain ⟨before, later, rfl, lists, never⟩ := h
  exact ⟨e :: before, later, rfl, lists, never⟩

end

/-! ## Markets are loaded as a whole -/

/-- **The same markets are loaded** in two sessions. -/
def SameMarkets (s t : Session) : Prop := t.markets = s.markets

instance : IsPreorder Session SameMarkets where
  refl _ := rfl
  trans _ _ _ h k := Eq.trans k h

end Session

namespace Line

open Session (SameMarkets)

theorem sameMarkets_ensureUp (m : VenueMethod) : Keeps SameMarkets (ensureUp m).run := by
  refine .seq .look fun s => ?_
  cases s.venue.outage? m with
  | none => exact .answer ()
  | some reason => exact .fail _

theorem sameMarkets_call (m : VenueMethod) (c : VenueCall) : Keeps SameMarkets (call m c).run :=
  .seq (.change fun _ => rfl) fun _ => sameMarkets_ensureUp m

theorem sameMarkets_ofExcept {α : Type} (x : Except Fault α) :
    Keeps SameMarkets (ofExcept x).run := fun _ => rfl

/-- A question about anything else loads no markets. -/
theorem sameMarkets_ask {α : Type} (m : VenueMethod) (c : VenueCall)
    (read : Session → Except Fault α) :
    Keeps SameMarkets (do call m c; ofExcept (read (← get)) : Line α).run :=
  .seq (sameMarkets_call m c) fun _ => .seq .look fun s => sameMarkets_ofExcept (read s)

theorem sameMarkets_takeOrderAnswer : Keeps SameMarkets takeOrderAnswer.run := by
  intro s
  show SameMarkets s (takeOrderAnswer s).2
  unfold takeOrderAnswer
  rw [Run.get_bind]
  rcases s.venue.answerOrder with ⟨_ | _, _⟩ <;> rfl

theorem sameMarkets_takeCancelAnswer (id : String) :
    Keeps SameMarkets (takeCancelAnswer id).run := by
  intro s
  show SameMarkets s (takeCancelAnswer id s).2
  unfold takeCancelAnswer
  rw [Run.get_bind]
  rcases s.venue.answerCancel id with ⟨_ | _, _⟩ <;> rfl

/-- A submission loads no markets. -/
theorem sameMarkets_submit (i : Instruction) : Keeps SameMarkets (submit i).run := by
  have sends (order : Submission) : Keeps SameMarkets (createOrder order).run :=
    .seq (.change fun _ => rfl) fun _ => .seq (.change fun _ => rfl) fun _ =>
      .seq (sameMarkets_ensureUp _) fun _ => .seq sameMarkets_takeOrderAnswer fun _ =>
        .seq (.change fun _ => rfl) fun _ => .answer _
  exact .seq .look fun _ => .seq (sameMarkets_ofExcept _) fun order =>
    .seq (sends order) fun _ => sameMarkets_ofExcept _

/-- A cancel loads no markets. -/
theorem sameMarkets_cancel (id symbol : String) : Keeps SameMarkets (cancel id symbol).run := by
  have sends : Keeps SameMarkets (cancelOrder id symbol).run :=
    .seq (sameMarkets_call _ _) fun _ => sameMarkets_takeCancelAnswer id
  refine .seq sends fun answer => ?_
  split
  · exact .seq (sameMarkets_ofExcept _) fun _ => .answer _
  · exact .answer _

end Line

namespace Session

variable {s t : Session}

/-- **Nothing but loading markets** changes which are loaded. -/
theorem sameMarkets_leaves {e : Event} (other : e ≠ .fetchMarkets) :
    SameMarkets s (e.leaves s) := by
  cases e with
  | fetchMarkets => exact absurd rfl other
  | fetchTicker symbol =>
    exact Line.sameMarkets_ask _ _ (fun s => Quote.read symbol s.venue.ticker) s
  | fetchOrderBook symbol depth =>
    exact Line.sameMarkets_ask _ _ (fun s => Book.read s.venue.book) s
  | fetchBalance => exact Line.sameMarkets_ask _ _ (fun s => Balance.read s.venue.balance) s
  | fetchTradingFees => exact Line.sameMarkets_ask _ _ (fun s => Line.readFees s.venue.fees) s
  | submit i => exact Line.sameMarkets_submit i s
  | cancel id symbol => exact Line.sameMarkets_cancel id symbol s
  | close => exact Line.sameMarkets_call _ _ s
  | turn v => rfl

/-- **Loading markets** keeps those of the answer when it is good throughout, and answers
with them. -/
theorem fetchMarkets_of_lists {listing : Market.Listing} (h : s.venue.ListsMarkets listing) :
    Line.fetchMarkets s
      = (.ok (listing.map Prod.snd), { s.record .loadMarkets with markets := listing }) := by
  rw [Line.fetchMarkets_apply, Venue.listing_eq_ok_iff.mpr h]

/-- An answer that is not good throughout leaves the markets alone. -/
theorem fetchMarkets_of_bad {e : Fault} (h : s.venue.listing = .error e) :
    Line.fetchMarkets s = (.error e, s.record .loadMarkets) := by
  rw [Line.fetchMarkets_apply, h]

/-- Whether an answer was good throughout. -/
theorem lists_or_bad (s : Session) :
    (∃ listing, s.venue.ListsMarkets listing)
      ∨ (¬ ∃ listing, s.venue.ListsMarkets listing) ∧ ∃ e, s.venue.listing = .error e := by
  cases told : s.venue.listing with
  | ok listing => exact .inl ⟨listing, Venue.listing_eq_ok_iff.mp told⟩
  | error e =>
    refine .inr ⟨?_, e, rfl⟩
    rintro ⟨listing, lists⟩
    rw [Venue.listing_eq_ok_iff.mpr lists] at told
    cases told

/-- **The markets after a run** are those of the last good answer, or those before the run when
no answer was good. -/
theorem markets_after (s : Session) (es : List Event) :
    NeverListed s es ∧ (s.after es).markets = s.markets
      ∨ LastListed s es (s.after es).markets := by
  induction es generalizing s with
  | nil =>
    refine .inl ⟨fun before later split => ?_, rfl⟩
    simp at split
  | cons e es ih =>
    rcases ih (e.leaves s) with ⟨never, same⟩ | last
    · by_cases loads : e = .fetchMarkets
      · subst loads
        rcases s.lists_or_bad with ⟨listing, lists⟩ | ⟨unlisted, _, bad⟩
        · have kept : (Event.fetchMarkets.leaves s).markets = listing :=
            congrArg (fun r => r.2.markets) (fetchMarkets_of_lists lists)
          refine .inr ⟨[], es, rfl, ?_, never⟩
          rw [show (s.after (.fetchMarkets :: es)).markets = listing from same.trans kept]
          exact lists
        · have kept : (Event.fetchMarkets.leaves s).markets = s.markets :=
            congrArg (fun r => r.2.markets) (fetchMarkets_of_bad bad)
          exact .inl ⟨never.cons fun _ => unlisted, same.trans kept⟩
      · exact .inl ⟨never.cons fun loading => absurd loading loads,
          same.trans (sameMarkets_leaves loads)⟩
    · exact .inr last.cons

/-- **The markets that are kept are those of the last good answer**, at any time in the life of a
connection, and there are none before the first one. An attempt to load markets fails when the
call fails or when a single market of the answer cannot be read, and then the markets are as they
were. Otherwise it answers with exactly the markets that are kept from then on, in their order. -/
theorem markets_are_last_good (slug : String) (v : Venue) (es : List Event) :
    let s := (opened slug v).after es
    (NeverListed (opened slug v) es ∧ s.markets = [] ∨ LastListed (opened slug v) es s.markets)
    ∧ ((∃ e, (Line.fetchMarkets s).1 = .error e) ↔
        (∃ reason, s.venue.outage? .loadMarkets = some reason)
        ∨ s.venue.outage? .loadMarkets = none
          ∧ ∃ entry ∈ s.venue.markets, ∃ e, Market.read s.venue.precision entry.2 = .error e)
    ∧ (∀ e t, Line.fetchMarkets s = (.error e, t) → t.markets = s.markets)
    ∧ ∀ markets t, Line.fetchMarkets s = (.ok markets, t) →
        Market.IsReading s.venue.precision s.venue.markets t.markets
        ∧ t.markets.map Prod.fst = s.venue.markets.map Prod.fst
        ∧ markets = t.markets.map Prod.snd := by
  intro s
  refine ⟨markets_after (opened slug v) es, ?_, fun e t ran => ?_, fun markets t ran => ?_⟩
  · rw [← Venue.listing_fails_iff, Line.fetchMarkets_apply]
    cases s.venue.listing <;> simp
  · rcases s.lists_or_bad with ⟨listing, lists⟩ | ⟨-, _, bad⟩
    · rw [fetchMarkets_of_lists lists] at ran
      cases ran
    · rw [fetchMarkets_of_bad bad] at ran
      cases ran
      rfl
  · rcases s.lists_or_bad with ⟨listing, lists⟩ | ⟨-, _, bad⟩
    · rw [fetchMarkets_of_lists lists] at ran
      cases ran
      exact ⟨lists.readable, lists.readable.keys, rfl⟩
    · rw [fetchMarkets_of_bad bad] at ran
      cases ran

end Session

end OrderDesk

import OrderDesk.Desk.Preview
import OrderDesk.Proofs.Conversation

/-!
# What a venue tells

A question to a venue that is not about an order is answered by the venue as it stands: either
its method is out of order, or what the venue has is read. So the answer is a function of the
venue alone, and a session is after it as it was, but for the journal. Markets that were loaded
are the one thing that a session keeps of an answer.

A fee is looked up in three places, and what comes of it depends on the markets that happen to
be loaded. They make no difference as long as they are what the venue would list now: markets
that are not loaded are loaded when they are needed (`Fees.believed_eq_of_current`).
-/

namespace OrderDesk

/-! ## Venues -/

namespace Venue

/-- **What a venue tells** when it is asked: what is read of it, unless the method is out of
order. -/
def tells {α : Type} (v : Venue) (m : VenueMethod) (read : Except Fault α) : Except Fault α :=
  match v.outage? m with
  | some reason => .error (.outage reason)
  | none => read

/-- The markets that the venue lists. -/
def listing (v : Venue) : Except Fault Market.Listing :=
  v.tells .loadMarkets (Market.readAll v.precision v.markets)

/-- The price of a pair. -/
def quote (v : Venue) (symbol : String) : Except Fault Quote :=
  v.tells .fetchTicker (Quote.read symbol v.ticker)

/-- What is offered on the venue. -/
def offers (v : Venue) : Except Fault (Book Float) :=
  v.tells .fetchOrderBook (Book.read v.book)

/-- The fees of the account. -/
def accountFees (v : Venue) : Except Fault (List (String × FeeRates Float)) :=
  v.tells .fetchTradingFees (Line.readFees v.fees)

/-- **Two venues tell the same** about markets, prices, offers and fees. -/
structure TellsAs (a b : Venue) : Prop where
  listing : a.listing = b.listing
  quote : ∀ symbol, a.quote symbol = b.quote symbol
  offers : a.offers = b.offers
  accountFees : a.accountFees = b.accountFees

end Venue

/-! ## Sessions -/

namespace Session

/-- **A session stands still**: the venue is the same, and the same markets are loaded. -/
structure Still (s t : Session) : Prop where
  slug : t.slug = s.slug
  venue : t.venue = s.venue
  markets : t.markets = s.markets

instance : IsPreorder Session Still where
  refl _ := ⟨rfl, rfl, rfl⟩
  trans _ _ _ h k :=
    ⟨k.slug.trans h.slug, k.venue.trans h.venue, k.markets.trans h.markets⟩

theorem still_record (s : Session) (call : VenueCall) : s.Still (s.record call) := ⟨rfl, rfl, rfl⟩

theorem still_notify (s : Session) (n : Notice) : s.Still (s.notify n) := ⟨rfl, rfl, rfl⟩

/-- The markets of a session are **current**: they are not loaded, or they are those that the
venue lists. -/
def IsCurrent (s : Session) : Prop := s.markets = [] ∨ s.venue.listing = .ok s.markets

end Session

namespace Line

/-- A call is entered in the journal, and fails when its method is out of order. -/
theorem call_apply (m : VenueMethod) (c : VenueCall) (s : Session) :
    call m c s = (s.venue.tells m (.ok ()), s.record c) := by
  show ensureUp m (s.record c) = _
  unfold ensureUp Venue.tells
  rw [Run.get_bind]
  show (match s.venue.outage? m with | some reason => _ | none => _ : Line Unit) _ = _
  cases s.venue.outage? m <;> rfl

/-- **A question is answered** by what the venue tells. -/
theorem ask_apply {α : Type} (m : VenueMethod) (c : VenueCall) (read : Venue → Except Fault α)
    (s : Session) :
    (do call m c; ofExcept (read (← get).venue) : Line α) s
      = (s.venue.tells m (read s.venue), s.record c) := by
  rw [Run.bind_apply, call_apply]
  unfold Venue.tells
  cases s.venue.outage? m <;> rfl

theorem fetchTicker_apply (symbol : String) (s : Session) :
    fetchTicker symbol s = (s.venue.quote symbol, s.record (.fetchTicker symbol)) :=
  ask_apply .fetchTicker _ (fun v => Quote.read symbol v.ticker) s

theorem fetchOrderBook_apply (symbol : String) (depth : Int) (s : Session) :
    fetchOrderBook symbol depth s = (s.venue.offers, s.record (.fetchOrderBook symbol depth)) :=
  ask_apply .fetchOrderBook _ (fun v => Book.read v.book) s

theorem fetchTradingFees_apply (s : Session) :
    fetchTradingFees s = (s.venue.accountFees, s.record .fetchTradingFees) :=
  ask_apply .fetchTradingFees _ (fun v => readFees v.fees) s

/-- Reading what the venue answered asks nothing more. -/
theorem ofExcept_apply {α : Type} (x : Except Fault α) (s : Session) : ofExcept x s = (x, s) := rfl

/-- **The markets are loaded** as the venue lists them, and they are kept when all of them can
be read. -/
theorem fetchMarkets_apply (s : Session) :
    fetchMarkets s = match s.venue.listing with
      | .ok listing => (.ok (listing.map Prod.snd),
          { s.record .loadMarkets with markets := listing })
      | .error e => (.error e, s.record .loadMarkets) := by
  unfold fetchMarkets Venue.listing
  rw [Run.bind_apply, call_apply]
  unfold Venue.tells
  cases s.venue.outage? .loadMarkets with
  | some reason => rfl
  | none =>
    dsimp only
    rw [Run.get_bind, Run.bind_apply, ofExcept_apply,
      show (s.record .loadMarkets).venue = s.venue from rfl]
    cases Market.readAll s.venue.precision s.venue.markets <;> rfl

end Line

/-! ## Fees -/

namespace Session

/-- A session after the fees of the account were asked for. -/
def afterFees (s : Session) : Session :=
  match s.venue.accountFees with
  | .ok _ => s.record .fetchTradingFees
  | .error e => (s.record .fetchTradingFees).notify (.feesUnavailable s.slug e.message)

/-- A session after markets were needed: they are loaded when there are none. -/
def afterMarkets (s : Session) : Session :=
  if s.markets.isEmpty then
    match s.venue.listing with
    | .ok listing => { s.record .loadMarkets with markets := listing }
    | .error e => (s.record .loadMarkets).notify (.marketsUnavailable s.slug e.message)
  else s

theorem still_afterFees (s : Session) : s.Still s.afterFees := by
  unfold afterFees
  cases s.venue.accountFees with
  | ok fees => exact s.still_record _
  | error e => exact trans_of _ (s.still_record _) (still_notify _ _)

theorem slug_afterMarkets (s : Session) : s.afterMarkets.slug = s.slug := by
  unfold afterMarkets
  split
  · cases s.venue.listing <;> rfl
  · rfl

theorem markets_afterMarkets (s : Session) :
    s.afterMarkets.markets
      = if s.markets.isEmpty then s.venue.listing.toOption.getD [] else s.markets := by
  unfold afterMarkets
  split
  case isTrue none =>
    cases s.venue.listing with
    | ok listing => rfl
    | error e => exact List.isEmpty_iff.mp none
  case isFalse => rfl

end Session

namespace Fees

/-- **The rates that are believed**, with their source: those of the account, else those of the
loaded markets, else the published ones. -/
def believed (slug : String) (v : Venue) (markets : Market.Listing) (symbol : Option String)
    (fallback : FeeRates Float) : FeeRates Float × FeeSource :=
  match v.accountFees.toOption.bind fun fees => accountEntry? fees symbol with
  | some rates => (rates, .account)
  | none =>
    let loaded := if markets.isEmpty then v.listing.toOption.getD [] else markets
    match marketEntry? loaded symbol with
    | some rates => (rates, .market)
    | none => (Venue.publishedFees slug fallback, .published)

/-- **Markets that are current make no difference** to what is believed. -/
theorem believed_eq_of_current {slug : String} {v : Venue} {markets listing : Market.Listing}
    {symbol : Option String} {fallback : FeeRates Float}
    (current : markets = [] ∨ v.listing = .ok markets) (lists : v.listing = .ok listing) :
    believed slug v markets symbol fallback = believed slug v listing symbol fallback := by
  have same : (if markets.isEmpty then v.listing.toOption.getD [] else markets)
      = if listing.isEmpty then v.listing.toOption.getD [] else listing := by
    rcases current with rfl | current
    · rw [lists]
      cases listing <;> rfl
    · rw [Except.ok.inj (current.symm.trans lists)]
  unfold believed
  rw [same]

/-- Venues that tell the same are believed the same. -/
theorem believed_eq_of_tellsAs {slug : String} {a b : Venue} {markets : Market.Listing}
    {symbol : Option String} {fallback : FeeRates Float} (same : a.TellsAs b) :
    believed slug a markets symbol fallback = believed slug b markets symbol fallback := by
  unfold believed
  rw [same.accountFees, same.listing]

/-- What is known from the fees of the account. -/
theorem fromAccount_eq (symbol : Option String) (s : Session) :
    fromAccount symbol s
      = (s.venue.accountFees.toOption.bind fun fees => accountEntry? fees symbol,
          s.afterFees) := by
  unfold fromAccount Session.afterFees
  rw [Run.bindM_apply, show (Line.fetchTradingFees).run s = _ from Line.fetchTradingFees_apply s]
  cases s.venue.accountFees <;> rfl

/-- The markets are loaded when they are needed. -/
theorem ensureMarkets_eq (s : Session) : ensureMarkets s = ((), s.afterMarkets) := by
  unfold ensureMarkets Session.afterMarkets
  rw [Run.bindM_apply, show (get : StateM Session Session) s = (s, s) from rfl]
  dsimp only
  split
  · rw [Run.bindM_apply, show (Line.fetchMarkets).run s = _ from Line.fetchMarkets_apply s]
    cases s.venue.listing <;> rfl
  · rfl

/-- **The rate for an order** is the one of its type among the rates that are believed. -/
theorem resolve_apply (type : OrderType) (symbol : Option String) (fallback : FeeRates Float)
    (s : Session) :
    (resolve type symbol fallback s).1
      = (believed s.slug s.venue s.markets symbol fallback).1.rateFor type
          (believed s.slug s.venue s.markets symbol fallback).2 := by
  unfold resolve believed
  rw [Run.bindM_apply, fromAccount_eq]
  cases s.venue.accountFees.toOption.bind fun fees => accountEntry? fees symbol with
  | some rates => rfl
  | none =>
    have still := s.still_afterFees
    dsimp only
    rw [Run.bindM_apply, ensureMarkets_eq, Run.bindM_apply,
      show (get : StateM Session Session) s.afterFees.afterMarkets
        = (s.afterFees.afterMarkets, s.afterFees.afterMarkets) from rfl]
    dsimp only
    rw [Session.markets_afterMarkets, Session.slug_afterMarkets, still.slug, still.markets,
      still.venue]
    cases marketEntry? _ symbol <;> rfl

/-- What an order of a value is charged at the rate of its type. -/
def charge (type : OrderType) (value : Float) (currency : String)
    (believed : FeeRates Float × FeeSource) : FeeEstimate where
  rate := believed.1.pick type
  amount := value * believed.1.pick type
  currency := currency
  source := believed.2

/-- **What an order is expected to be charged** is its value at the rate that is believed. -/
theorem estimate_apply (type : OrderType) (value : Float) (currency : String)
    (symbol : Option String) (fallback : FeeRates Float) (s : Session) :
    (estimate type value currency symbol fallback s).1
      = charge type value currency (believed s.slug s.venue s.markets symbol fallback) := by
  unfold estimate
  rw [Run.bindM_apply]
  show FeeEstimate.mk (resolve type symbol fallback s).1.rate
    (value * (resolve type symbol fallback s).1.rate) currency
    (resolve type symbol fallback s).1.source = _
  rw [resolve_apply]
  rfl

end Fees

end OrderDesk

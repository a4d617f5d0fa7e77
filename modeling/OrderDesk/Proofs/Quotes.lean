import OrderDesk.Desk.Cancellation
import OrderDesk.Desk.Oco
import OrderDesk.Proofs.Preparation
import OrderDesk.Proofs.View

/-!
# Venues and floors in a view

A venue is asked for prices, books and fees only to say what an order is expected to cost.
Without these answers two venues are the same when they list the same markets and answer
orders and cancels alike. Two floors are the same in a view when all their venues are, when
the same commands were given on them, and when the same users can
reach the same venues.

The markets that were loaded through a connection are no part of this, in either view. They
are loaded again before every order, so that the only thing that can depend on them is the
rate of a fee. That makes the estimate of an order the one place where more has to be known:
once the markets were loaded on two floors that are the same in the whole view, the sessions
are *twins*, which ask and are answered the same, and then the estimates are equal
(`Floor.tallies_estimate`).
-/

namespace OrderDesk

/-- A question about prices, books or fees. -/
def VenueMethod.asksQuote : VenueMethod → Bool
  | .fetchTicker | .fetchOrderBook | .fetchTradingFees => true
  | _ => false

/-- **Two venues are the same in a view**: without quotes, they may differ in what they
answer to questions about prices, books and fees, and in whether they answer these at all. -/
structure Venue.SameIn (v : View) (a b : Venue) : Prop where
  precision : a.precision = b.precision
  markets : a.markets = b.markets
  balance : a.balance = b.balance
  acks : a.acks = b.acks
  cancels : a.cancels = b.cancels
  submissions : a.submissions = b.submissions
  accepted : a.accepted = b.accepted
  outage : ∀ m : VenueMethod, (m.asksQuote = true → v = .whole) → a.outage? m = b.outage? m
  quotes : v = .whole → a.ticker = b.ticker ∧ a.book = b.book ∧ a.fees = b.fees

namespace Venue.SameIn

variable {v : View} {a b : Venue}

theorem refl (a : Venue) : a.SameIn v a :=
  ⟨rfl, rfl, rfl, rfl, rfl, rfl, rfl, fun _ _ => rfl, fun _ => ⟨rfl, rfl, rfl⟩⟩

/-- The next answer to an order. -/
theorem answerOrder (h : a.SameIn v b) :
    a.answerOrder.1 = b.answerOrder.1 ∧ a.answerOrder.2.SameIn v b.answerOrder.2 := by
  have running : a.runningId = b.runningId := by
    unfold runningId
    rw [h.submissions]
  unfold Venue.answerOrder
  rw [← h.acks, ← running]
  split
  · exact ⟨rfl, h⟩
  all_goals exact ⟨rfl, { h with acks := rfl }⟩

/-- The next answer to a cancel. -/
theorem answerCancel (h : a.SameIn v b) (id : String) :
    (a.answerCancel id).1 = (b.answerCancel id).1
      ∧ (a.answerCancel id).2.SameIn v (b.answerCancel id).2 := by
  unfold Venue.answerCancel
  rw [← h.cancels]
  split
  · exact ⟨rfl, h⟩
  all_goals exact ⟨rfl, { h with cancels := rfl }⟩

end Venue.SameIn

/-! ## Sessions -/

namespace Session

/-- **Two sessions are the same in a view.** The markets that were loaded are left out. -/
structure SameIn (v : View) (s t : Session) : Prop where
  slug : s.slug = t.slug
  venue : s.venue.SameIn v t.venue
  commands : s.commands = t.commands

/-- **Two sessions are twins**: the venues are the same, with their quotes, and so are the
markets that were loaded. What was said so far is left out. -/
structure Twins (s t : Session) : Prop where
  slug : s.slug = t.slug
  venue : s.venue.SameIn .whole t.venue
  markets : s.markets = t.markets

variable {v : View} {s t s' t' : Session}

/-- Sessions in which one only asks stay the same in a view. -/
theorem SameIn.reads (h : SameIn v s t) (first : s.Reads s') (second : t.Reads t') :
    SameIn v s' t' := by
  refine ⟨?_, ?_, ?_⟩
  · rw [first.slug, second.slug, h.slug]
  · rw [first.venue, second.venue]
    exact h.venue
  · rw [first.commands, second.commands, h.commands]

/-- A call is entered in both journals. -/
theorem SameIn.record (h : SameIn v s t) (call : VenueCall) :
    SameIn v (s.record call) (t.record call) := by
  refine ⟨h.slug, h.venue, ?_⟩
  have entered (s : Session) :
      (s.record call).commands = s.commands ++ [⟨s.slug, call⟩].filter (·.isCommand) :=
    List.filter_append ..
  rw [entered, entered, h.commands, h.slug]

end Session

namespace Line

variable {v : View}

open Session (SameIn Twins)

theorem respects_ofExcept {α : Type} {R : Session → Session → Prop} (x : Except Fault α) :
    Respects R (ofExcept x).run := .answerM x

/-! ### What orders and cancels are told -/

theorem respects_ensureUp {m : VenueMethod} (seen : m.asksQuote = false) :
    Respects (SameIn v) (ensureUp m).run := by
  have same (s t : Session) (h : s.SameIn v t) : s.venue.outage? m = t.venue.outage? m :=
    h.venue.outage m fun asks => by rw [seen] at asks; cases asks
  refine .look (fun s t h => by simp only [same s t h]) fun s => ?_
  cases s.venue.outage? m with
  | none => exact .answer ()
  | some reason => exact .fail _

theorem respects_call {m : VenueMethod} (seen : m.asksQuote = false) (call : VenueCall) :
    Respects (SameIn v) (Line.call m call).run :=
  .seq (.change fun _ _ h => h.record call) fun _ => respects_ensureUp seen

theorem respects_fetchMarkets : Respects (SameIn v) fetchMarkets.run :=
  .seq (respects_call rfl _) fun _ =>
    .look (fun s t h => by simp only [h.venue.precision, h.venue.markets]) fun s =>
    .seq (respects_ofExcept _) fun _ =>
    .seq (.change fun _ _ h => ⟨h.slug, h.venue, h.commands⟩) fun _ => .answer _

theorem respects_takeOrderAnswer : Respects (SameIn v) takeOrderAnswer.run := by
  intro s t h
  obtain ⟨same, after⟩ := h.venue.answerOrder
  show (takeOrderAnswer s).1 = (takeOrderAnswer t).1
    ∧ SameIn v (takeOrderAnswer s).2 (takeOrderAnswer t).2
  unfold takeOrderAnswer
  rw [Run.get_bind, Run.get_bind]
  rcases took : s.venue.answerOrder with ⟨r, a⟩
  rcases took' : t.venue.answerOrder with ⟨r', b⟩
  rw [took, took'] at same after
  obtain rfl : r = r' := same
  cases r <;> exact ⟨rfl, h.slug, after, h.commands⟩

theorem respects_takeCancelAnswer (id : String) :
    Respects (SameIn v) (takeCancelAnswer id).run := by
  intro s t h
  obtain ⟨same, after⟩ := h.venue.answerCancel id
  show (takeCancelAnswer id s).1 = (takeCancelAnswer id t).1
    ∧ SameIn v (takeCancelAnswer id s).2 (takeCancelAnswer id t).2
  unfold takeCancelAnswer
  rw [Run.get_bind, Run.get_bind]
  rcases took : s.venue.answerCancel id with ⟨r, a⟩
  rcases took' : t.venue.answerCancel id with ⟨r', b⟩
  rw [took, took'] at same after
  obtain rfl : r = r' := same
  cases r <;> exact ⟨rfl, h.slug, after, h.commands⟩

theorem respects_createOrder (order : Submission) :
    Respects (SameIn v) (Line.createOrder order).run :=
  .seq (.change fun _ _ h => h.record _) fun _ =>
    .seq (.change fun _ _ h => ⟨h.slug,
      { h.venue with submissions := congrArg (· + 1) h.venue.submissions }, h.commands⟩)
    fun _ => .seq (respects_ensureUp rfl) fun _ => .seq respects_takeOrderAnswer fun _ =>
    .seq (.change fun _ _ h => ⟨h.slug,
      { h.venue with accepted := congrArg (· ++ [_]) h.venue.accepted }, h.commands⟩)
    fun _ => .answer _

/-- **Orders are submitted** in the same words, and answered the same. -/
theorem respects_submit (i : Instruction) : Respects (SameIn v) (Line.submit i).run :=
  .look (fun _ _ h => by simp only [h.slug]) fun _ => .seq (respects_ofExcept _) fun _ =>
    .seq (respects_createOrder _) fun _ => respects_ofExcept _

/-- **Orders are canceled** in the same words, and that is answered the same. -/
theorem respects_cancel (id symbol : String) :
    Respects (SameIn v) (Line.cancel id symbol).run := by
  refine .seq (.seq (respects_call rfl _) fun _ => respects_takeCancelAnswer id) fun answer => ?_
  split
  · exact .seq (respects_ofExcept _) fun _ => .answer _
  · exact .answer _

/-! ### What twins are told -/

theorem twins_ensureUp (m : VenueMethod) : Respects Twins (ensureUp m).run := by
  refine .look (fun s t h => by simp only [h.venue.outage m fun _ => rfl]) fun s => ?_
  cases s.venue.outage? m with
  | none => exact .answer ()
  | some reason => exact .fail _

theorem twins_call (m : VenueMethod) (call : VenueCall) : Respects Twins (Line.call m call).run :=
  .seq (.change fun _ _ h => ⟨h.slug, h.venue, h.markets⟩) fun _ => twins_ensureUp m

theorem twins_fetchTicker (symbol : String) : Respects Twins (fetchTicker symbol).run :=
  .seq (twins_call _ _) fun _ =>
    .look (fun _ _ h => by simp only [(h.venue.quotes rfl).1]) fun _ => respects_ofExcept _

theorem twins_fetchOrderBook (symbol : String) (depth : Int) :
    Respects Twins (fetchOrderBook symbol depth).run :=
  .seq (twins_call _ _) fun _ =>
    .look (fun _ _ h => by simp only [(h.venue.quotes rfl).2.1]) fun _ => respects_ofExcept _

theorem twins_fetchTradingFees : Respects Twins fetchTradingFees.run :=
  .seq (twins_call _ _) fun _ =>
    .look (fun _ _ h => by simp only [(h.venue.quotes rfl).2.2]) fun _ => respects_ofExcept _

theorem twins_fetchMarkets : Respects Twins fetchMarkets.run :=
  .seq (twins_call _ _) fun _ =>
    .look (fun s t h => by simp only [h.venue.precision, h.venue.markets]) fun s =>
    .seq (respects_ofExcept _) fun _ =>
    .seq (.change fun _ _ h => ⟨h.slug, h.venue, rfl⟩) fun _ => .answer _

/-- **Loading the markets makes twins** of sessions that are the same in the whole view. -/
theorem twins_of_fetchMarkets {s t : Session} {markets : List Market}
    (h : SameIn .whole s t) (loaded : (fetchMarkets s).1 = .ok markets) :
    Twins (fetchMarkets s).2 (fetchMarkets t).2 := by
  have after : SameIn .whole (fetchMarkets s).2 (fetchMarkets t).2 :=
    (respects_fetchMarkets s t h).2
  have loaded' : (fetchMarkets t).1 = .ok markets := (respects_fetchMarkets s t h).1 ▸ loaded
  refine ⟨after.slug, after.venue, ?_⟩
  have replaced {s : Session} (loaded : (fetchMarkets s).1 = .ok markets) :
      Market.readAll s.venue.precision s.venue.markets = .ok (fetchMarkets s).2.markets := by
    rcases ran : fetchMarkets s with ⟨r, s₄⟩
    rw [ran] at loaded
    cases loaded
    obtain ⟨_, s₁, called, rest⟩ := Run.of_bind_ok ran
    have asked : s.Reads s₁ := by
      have kept : s.Reads (Line.call .loadMarkets .loadMarkets s).2 := keeps_call (fun _ => rfl) s
      rwa [called] at kept
    rw [Run.get_bind] at rest
    obtain ⟨listing, s₂, read, rest⟩ := Run.of_bind_ok rest
    obtain ⟨_, s₃, changed, rest⟩ := Run.of_bind_ok rest
    cases rest
    cases changed
    rw [← asked.venue]
    exact congrArg Prod.fst read
  have first := replaced loaded
  rw [h.venue.precision, h.venue.markets, replaced loaded'] at first
  exact (Except.ok.inj first).symm

end Line

namespace Fees

open Session (Twins)

theorem twins_fromAccount (symbol : Option String) : Respects Twins (fromAccount symbol) := by
  refine .seqM Line.twins_fetchTradingFees fun fees => ?_
  cases fees with
  | ok fees => exact .answerM _
  | error e =>
    have noticed : Respects Twins (modify fun s => s.notify (.feesUnavailable s.slug e.message)) :=
      fun _ _ h => ⟨rfl, h.slug, h.venue, h.markets⟩
    exact .seqM noticed fun _ => .answerM _

theorem twins_ensureMarkets : Respects Twins ensureMarkets := by
  refine .lookM (fun s t h => by simp only [h.markets]) fun s => ?_
  split
  · refine .seqM Line.twins_fetchMarkets fun loaded => ?_
    cases loaded with
    | ok _ => exact .answerM _
    | error e => exact fun _ _ h => ⟨rfl, h.slug, h.venue, h.markets⟩
  · exact .answerM _

/-- **Twins are charged the same.** -/
theorem twins_resolve (type : OrderType) (symbol : Option String) (fallback : FeeRates Float) :
    Respects Twins (resolve type symbol fallback) := by
  refine .seqM (twins_fromAccount symbol) fun rates => ?_
  cases rates with
  | some rates => exact .answerM _
  | none =>
    refine .seqM twins_ensureMarkets fun _ =>
      .lookM (fun s t h => by simp only [h.markets, h.slug]) fun s => ?_
    cases marketEntry? s.markets symbol <;> exact .answerM _

theorem twins_estimate (type : OrderType) (value : Float) (currency : String)
    (symbol : Option String) (fallback : FeeRates Float) :
    Respects Twins (estimate type value currency symbol fallback) :=
  .seqM (twins_resolve type symbol fallback) fun _ => .answerM _

end Fees

/-! ## Floors -/

namespace Floor

/-- A user has a connection to a venue. -/
def Connects (f : Floor) (slug user : String) : Prop := (f.connection? slug user).isSome

/-- A venue is on the floor. -/
def Lists (f : Floor) (slug : String) : Prop := (f.venue? slug).isSome

/-- What comes of asking for a connection, whether or not one is there, and whether or not the
venue is listed. -/
def accessOf (slug : String) (connected listed : Bool) (opening : Except Fault Unit) :
    Except Fault Unit :=
  if connected then .ok () else if listed then opening else .error (.unknownVenue slug)

/-- **A user's access to a venue**, over a connection or by making one. -/
def access (f : Floor) (slug user : String) : Except Fault Unit :=
  accessOf slug (f.connection? slug user).isSome (f.venue? slug).isSome (f.opening slug)

/-- Whoever has the same access has it when the venue is listed. -/
theorem accessOf_listed {slug : String} {c c' l l' : Bool} {o : Except Fault Unit} (listed : Bool)
    (same : accessOf slug c l o = accessOf slug c' l' o) :
    accessOf slug c (listed || l) o = accessOf slug c' (listed || l') o := by
  cases listed with
  | false => exact same
  | true => cases c <;> cases c' <;> cases l <;> cases l' <;> simp_all [accessOf]

/-- Whoever is connected has access. -/
theorem access_of_connects {f : Floor} {slug user : String} (connects : f.Connects slug user) :
    f.access slug user = .ok () := if_pos connects

/-- **Connections are grounded** when the venues that they lead to are on the floor. -/
def Grounded (f : Floor) : Prop := ∀ c ∈ f.connections, f.Lists c.slug

/-- **Two floors are the same in a view.** When what is about to be done is known to be about
some context, both have the connection for it. In the whole view connections are grounded. -/
structure SameIn (v : View) (held : Option Context) (f g : Floor) : Prop where
  script : ∀ slug, (f.script slug).SameIn v (g.script slug)
  policy : f.policy = g.policy
  making : f.making = g.making
  access : ∀ slug user, f.access slug user = g.access slug user
  commands : f.commands = g.commands
  held : ∀ ctx ∈ held, f.Connects ctx.slug ctx.user ∧ g.Connects ctx.slug ctx.user
  grounded : v = .whole → f.Grounded ∧ g.Grounded

section

variable {v : View} {held : Option Context} {f g f' g' : Floor}

/-! ### A floor after a session -/

/-- A connection after a session, under its own name. -/
theorem connection?_absorb (f : Floor) (user : String) (s : Session) (slug name : String) :
    (f.absorb user s).connection? slug name = (f.connection? slug name).map fun c =>
      if c.slug == s.slug && c.user == user then { c with markets := s.markets } else c := by
  show (replaceMarkets s.slug user s.markets f.connections).find? _ = _
  unfold replaceMarkets
  rw [List.find?_map]
  refine congrArg (fun p => (f.connections.find? p).map _) (funext fun c => ?_)
  dsimp only [Function.comp]
  split <;> rfl

/-- Sessions make and end no connection. -/
theorem connects_absorb {user : String} {s : Session} {slug name : String} :
    (f.absorb user s).Connects slug name ↔ f.Connects slug name := by
  unfold Connects
  rw [connection?_absorb, Option.isSome_map]

/-- The venue of a session is on the floor after it. -/
theorem venue?_absorb (f : Floor) (user : String) (s : Session) (slug : String) :
    ((f.absorb user s).venue? slug).isSome = (slug == s.slug || (f.venue? slug).isSome) := by
  show ((putVenue s.slug s.venue f.venues).lookup slug).isSome = _
  rw [lookup_putVenue]
  by_cases here : slug = s.slug
  · rw [if_pos here, beq_iff_eq.mpr here]
    rfl
  · rw [if_neg here, beq_eq_false_iff_ne.mpr here]
    rfl

theorem lists_absorb {user : String} {s : Session} {slug : String} :
    (f.absorb user s).Lists slug ↔ slug = s.slug ∨ f.Lists slug := by
  unfold Lists
  rw [venue?_absorb, Bool.or_eq_true, beq_iff_eq]

/-- Access after a session. -/
theorem access_absorb (f : Floor) (user : String) (s : Session) (slug name : String) :
    (f.absorb user s).access slug name = accessOf slug (f.connection? slug name).isSome
      (slug == s.slug || (f.venue? slug).isSome) (f.opening slug) := by
  unfold access
  rw [connection?_absorb, Option.isSome_map, venue?_absorb]
  rfl

theorem Grounded.absorb (grounded : f.Grounded) (user : String) (s : Session) :
    (f.absorb user s).Grounded := by
  intro c mem
  obtain ⟨c', mem', rfl⟩ := List.mem_map.mp mem
  rw [lists_absorb]
  refine .inr ?_
  have same : (if c'.slug == s.slug && c'.user == user then { c' with markets := s.markets }
      else c' : Connection).slug = c'.slug := by split <;> rfl
  rw [same]
  exact grounded c' mem'

/-- The next session over the same connection goes on where the last one ended. -/
theorem session_absorb {slug user : String} {s : Session} (connects : f.Connects slug user)
    (same : s.slug = slug) : (f.absorb user s).session slug user = s := by
  subst same
  obtain ⟨c, found⟩ := Option.isSome_iff_exists.mp connects
  have its : (c.slug == s.slug && c.user == user) = true := by
    have found : f.connections.find? (fun c => c.slug == s.slug && c.user == user) = some c := found
    simpa using List.find?_some found
  have venue : (f.absorb user s).script s.slug = s.venue := by rw [script_absorb, if_pos rfl]
  unfold session
  rw [venue, connection?_absorb, found, Option.map_some, if_pos its]
  rfl

/-! ### Exchanges -/

/-- The making of clients goes the same. -/
theorem SameIn.opening (h : SameIn v held f g) (slug : String) : f.opening slug = g.opening slug := by
  unfold Floor.opening
  rw [h.policy, h.making]

/-- The sessions of one user with one venue. -/
theorem SameIn.session (h : SameIn v held f g) (slug user : String) :
    (f.session slug user).SameIn v (g.session slug user) :=
  ⟨rfl, h.script slug, h.commands⟩

theorem SameIn.absorb (h : SameIn v held f g) (user : String) {s t : Session}
    (same : s.SameIn v t) : SameIn v held (f.absorb user s) (g.absorb user t) := by
  refine ⟨fun slug => ?_, h.policy, h.making, fun slug name => ?_, same.commands,
    fun ctx mem => ?_, fun whole => ?_⟩
  · rw [script_absorb, script_absorb, same.slug]
    split
    · exact same.venue
    · exact h.script slug
  · have access := h.access slug name
    unfold Floor.access at access
    rw [access_absorb, access_absorb, same.slug, ← h.opening] at *
    exact accessOf_listed _ access
  · rw [connects_absorb, connects_absorb]
    exact h.held ctx mem
  · exact ⟨(h.grounded whole).1.absorb user s, (h.grounded whole).2.absorb user t⟩

/-- **Exchanges tally on the floor** when they do in the sessions. -/
theorem SameIn.onLine {α : Type} {A : α → α → Prop} {x y : StateM Session α}
    {slug user : String} (h : SameIn v held f g)
    (said : Tallies (Session.SameIn v) A x y (f.session slug user) (g.session slug user)) :
    Tallies (SameIn v held) A (onLine slug user x) (onLine slug user y) f g :=
  ⟨said.1, h.absorb user said.2⟩

theorem respects_onLine {α : Type} {x : StateM Session α} (hx : Respects (Session.SameIn v) x)
    (slug user : String) : Respects (SameIn v held) (onLine slug user x) :=
  fun _ _ h => h.onLine (hx _ _ (h.session slug user))

theorem respects_check {α : Type} (x : Except Failure α) :
    Respects (SameIn v held) (check x).run := .answerM x

theorem respects_runLine {α : Type} {x : Line α} (hx : Respects (Session.SameIn v) x.run)
    (slug user : String) : Respects (SameIn v held) (runLine slug user x).run := by
  refine .seq (.lift (respects_onLine hx slug user)) fun r => ?_
  cases r with
  | ok a => exact .answer a
  | error e => exact .fail _

/-- **Notices may differ.** -/
theorem SameIn.notices (h : SameIn v held f g) (ns ns' : List Notice) :
    SameIn v held { f with notices := ns } { g with notices := ns' } := { h with }

/-! ### Connections -/

/-- **A floor on which a connection was opened**, and on which nothing else is new. -/
structure Opens (slug user : String) (f g : Floor) : Prop where
  reads : f.Reads g
  policy : g.policy = f.policy
  making : g.making = f.making
  venues : g.venues = f.venues
  connects : ∀ name other,
    g.Connects name other ↔ f.Connects name other ∨ name = slug ∧ other = user
  grounded : f.Grounded → g.Grounded

theorem Opens.lists {slug user name : String} (h : f.Opens slug user g) :
    g.Lists name ↔ f.Lists name := by
  unfold Lists venue?
  rw [h.venues]

/-- Access after a connection was opened, to whom it was open and to all others. -/
theorem Opens.access {slug user : String} (h : f.Opens slug user g)
    (had : f.access slug user = .ok ()) (name other : String) :
    g.access name other = f.access name other := by
  by_cases here : name = slug ∧ other = user
  · obtain ⟨rfl, rfl⟩ := here
    rw [had]
    exact access_of_connects ((h.connects _ _).mpr (.inr ⟨rfl, rfl⟩))
  · have connected : (g.connection? name other).isSome = (f.connection? name other).isSome :=
      Bool.eq_iff_iff.mpr ((h.connects name other).trans (or_iff_left here))
    unfold Floor.access venue? opening
    rw [connected, h.venues, h.policy, h.making]

/-- **A floor on which no connection was opened**: nothing is new but what was said. -/
structure Declines (f g : Floor) : Prop where
  reads : f.Reads g
  rest : g = { f with journal := g.journal }

/-- **How a connection is had**: when the user has access to the venue, it is there or it is
opened, and otherwise it is not had. -/
theorem resolve_cases (slug user : String) (credential : Option Credential) (f : Floor) :
    (f.access slug user = .ok () ∧ ∃ c, (resolve slug user credential f).1 = .ok c
        ∧ c.slug = slug ∧ f.Opens slug user (resolve slug user credential f).2)
    ∨ ∃ e, f.access slug user = .error e ∧ (resolve slug user credential f).1 = .error (.fault e)
        ∧ f.Declines (resolve slug user credential f).2 := by
  have ends := resolves slug user credential f
  have reads := ends.reads
  generalize (resolve slug user credential f).1 = r at ends
  generalize (resolve slug user credential f).2 = g at ends reads
  have unconnected (fresh : f.connection? slug user = none) : f.access slug user
      = if (f.venue? slug).isSome then f.opening slug else .error (.unknownVenue slug) := by
    unfold access
    rw [fresh]
    rfl
  cases ends with
  | @again c known =>
    have connects : f.Connects slug user := Option.isSome_iff_exists.mpr ⟨c, known⟩
    have had : Resolves slug user credential f (.ok c) f := .again known
    refine .inl ⟨access_of_connects connects, c, rfl, had.isFor.1, reads, rfl, rfl, rfl,
      fun name other => ?_, id⟩
    refine (or_iff_left_of_imp ?_).symm
    rintro ⟨rfl, rfl⟩
    exact connects
  | unknown fresh unlisted =>
    refine .inr ⟨_, ?_, rfl, reads, rfl⟩
    rw [unconnected fresh, unlisted]
    rfl
  | unbuilt fresh listed fails =>
    refine .inr ⟨_, ?_, rfl, reads, rfl⟩
    rw [unconnected fresh, if_pos listed, opening, fails]
  | unswitched fresh listed built boxed fails =>
    refine .inr ⟨_, ?_, rfl, reads, rfl⟩
    rw [unconnected fresh, if_pos listed, opening, built]
    exact (if_pos boxed).trans fails
  | made fresh listed opens =>
    refine .inl ⟨?_, _, rfl, rfl, reads, rfl, rfl, rfl, fun name other => ?_,
      fun grounded c mem => ?_⟩
    · rw [unconnected fresh, if_pos listed, opens]
    · show ((f.connections ++ [_]).find? _).isSome ↔ (f.connections.find? _).isSome ∨ _
      simp only [List.find?_isSome, List.mem_append, List.mem_singleton, or_and_right,
        exists_or, exists_eq_left, Bool.and_eq_true, beq_iff_eq]
      exact or_congr_right (and_congr eq_comm eq_comm)
    · replace mem : c ∈ f.connections ++ [_] := mem
      rcases List.mem_append.mp mem with old | new
      · exact grounded c old
      · obtain rfl := List.mem_singleton.mp new
        exact listed

/-- The same connection is opened on both floors. -/
theorem SameIn.opens (h : SameIn v held f g) {slug user : String} (first : f.Opens slug user f')
    (second : g.Opens slug user g') (had : f.access slug user = .ok ()) :
    SameIn v held f' g' := by
  have had' : g.access slug user = .ok () := (h.access slug user) ▸ had
  refine ⟨fun name => ?_, ?_, ?_, fun name other => ?_, ?_, fun ctx mem => ?_, fun whole => ?_⟩
  · rw [first.reads.script, second.reads.script]
    exact h.script name
  · rw [first.policy, second.policy, h.policy]
  · rw [first.making, second.making, h.making]
  · rw [first.access had, second.access had', h.access]
  · rw [first.reads.commands, second.reads.commands, h.commands]
  · rw [first.connects, second.connects]
    exact (h.held ctx mem).imp .inl .inl
  · exact ⟨first.grounded (h.grounded whole).1, second.grounded (h.grounded whole).2⟩

/-- No connection is opened on either floor. -/
theorem SameIn.declines (h : SameIn v held f g) (first : f.Declines f') (second : g.Declines g') :
    SameIn v held f' g' := by
  have commands : f'.commands = g'.commands := by
    rw [first.reads.commands, second.reads.commands, h.commands]
  rw [first.rest, second.rest] at commands ⊢
  exact { h with commands := commands }

/-- **A connection is had** on both floors or on neither. The two may differ in when they were
made, and in the markets that were loaded through them. -/
theorem matches_resolve (slug user : String) (credential : Option Credential) :
    Matches (SameIn v held) (EndAlike fun c c' => c.slug = c'.slug)
      (resolve slug user credential).run (resolve slug user credential).run := by
  intro f g h
  show EndAlike _ (resolve slug user credential f).1 (resolve slug user credential g).1
    ∧ SameIn v held (resolve slug user credential f).2 (resolve slug user credential g).2
  have same := h.access slug user
  rcases resolve_cases slug user credential f with
    ⟨had, c, found, its, opens⟩ | ⟨e, refused, failed, declines⟩
  · rcases resolve_cases slug user credential g with
      ⟨-, c', found', its', opens'⟩ | ⟨e', refused', -⟩
    · rw [found, found']
      exact ⟨.ok (its.trans its'.symm), h.opens opens opens' had⟩
    · rw [had, refused'] at same
      cases same
  · rcases resolve_cases slug user credential g with ⟨had', -⟩ | ⟨e', refused', failed', declines'⟩
    · rw [had', refused] at same
      cases same
    · rw [refused, refused'] at same
      cases same
      rw [failed, failed']
      exact ⟨.error rfl, h.declines declines declines'⟩

theorem matches_connectAs (ref : Reference) (user slug : String) :
    Matches (SameIn v held) (EndAlike fun c c' => c.slug = c'.slug)
      (connectAs ref user slug).run (connectAs ref user slug).run :=
  .after (respects_check _) fun credential => matches_resolve slug user (some credential)

/-- **The context of a request** is the same. -/
theorem respects_context (ref : Reference) (r : OrderRequest) (user : String) :
    Respects (SameIn v held) (context ref r user).run := by
  refine .seq (respects_check _) fun coins =>
    Matches.respects (.seq (matches_connectAs ref user r.venue) fun c c' same => ?_)
  rw [same]
  exact .ofRespects (.seq (respects_check _) fun _ => .answer _)

/-- The connection of a context is there. -/
theorem connects_of_context {ref : Reference} {r : OrderRequest} {user : String} {ctx : Context}
    (h : context ref r user f = (.ok ctx, g)) : g.Connects ctx.slug ctx.user := by
  obtain ⟨coins, f₁, -, h⟩ := Run.of_bind_ok h
  obtain ⟨connection, f₂, connected, h⟩ := Run.of_bind_ok h
  obtain ⟨symbol, f₃, checked, h⟩ := Run.of_bind_ok h
  obtain rfl : f₂ = f₃ := congrArg Prod.snd checked
  cases h
  obtain ⟨credential, f₄, -, resolved⟩ := Run.of_bind_ok connected
  rcases resolve_cases r.venue user (some credential) f₄ with
    ⟨-, c, had, its, opens⟩ | ⟨e, -, failed, -⟩
  · rw [resolved] at had opens
    cases had
    exact (opens.connects _ _).mpr (.inr ⟨its, rfl⟩)
  · rw [resolved] at failed
    cases failed

/-- Floors on which the same context was found. -/
theorem SameIn.hold {ref : Reference} {r : OrderRequest} {user : String} {ctx : Context}
    (h : SameIn v none f' g') (found : context ref r user f = (.ok ctx, f'))
    (found' : context ref r user g = (.ok ctx, g')) : SameIn v (some ctx) f' g' := by
  refine { h with held := fun other mem => ?_ }
  obtain rfl : ctx = other := Option.mem_some.mp mem
  exact ⟨connects_of_context found, connects_of_context found'⟩

/-- What is about to be done may be about anything. -/
theorem SameIn.release (h : SameIn v held f g) : SameIn v none f g :=
  { h with held := fun _ mem => nomatch mem }

/-! ### Commands -/

/-- **Legs are submitted** in the same words, and answered the same. -/
theorem respects_submit (ctx : Context) (leg : Leg) (operation : String) :
    Respects (SameIn v held) (submit ctx leg operation).run := by
  refine .seq (.lift (respects_onLine (Line.respects_submit _) _ _)) fun r => ?_
  cases r with
  | ok ack => exact .answer ack
  | error e => exact .fail _

theorem respects_compensate (ctx : Context) (ack : Ack) :
    Respects (SameIn v held) (Desk.compensate ctx ack) := by
  refine .seqM (respects_onLine (Line.respects_cancel _ _) _ _) fun r => ?_
  cases r with
  | ok _ => exact .answerM ()
  | error e => exact fun _ _ h => ⟨rfl, h.notices _ _⟩

theorem respects_submitSecond (ctx : Context) (leg : Leg) (first : Ack) :
    Respects (SameIn v held) (Desk.submitSecond ctx leg first).run := by
  intro f g h
  obtain ⟨r, f', g', (sent : (submit ctx leg _).run f = _), (sent' : (submit ctx leg _).run g = _),
    after⟩ := (respects_submit ctx leg "place stop-loss order" f g h).ran
  have second (f : Floor) : (Desk.submitSecond ctx leg first).run f
      = Desk.submitSecond ctx leg first f := rfl
  unfold Agrees
  rw [second, second]
  unfold Desk.submitSecond
  rw [sent, sent']
  cases r with
  | ok ack => exact ⟨rfl, after⟩
  | error e => exact ⟨rfl, (respects_compensate ctx first f' g' after).2⟩

theorem respects_submitBoth (ctx : Context) (profit stop : Leg) :
    Respects (SameIn v held) (Desk.submitBoth ctx profit stop).run :=
  .seq (respects_submit _ _ _) fun first => .seq (respects_submitSecond _ _ first)
    fun _ => .answer _

/-- **Orders are canceled** at their venues in the same words. -/
theorem respects_cancelAtVenue (ref : Reference) (user : String) (o : Order) :
    Respects (SameIn v held) (cancelAtVenue ref user o).run := by
  refine Matches.respects (.seq (matches_connectAs ref user o.venue) fun c c' same => ?_)
  rw [same]
  refine .ofRespects (.seq (.lift (respects_onLine (Line.respects_cancel _ _) _ _)) fun r => ?_)
  rcases r with e | _ | ack
  · exact .fail _
  · exact .answer ()
  · exact .seq (respects_check _) fun _ => respects_check _

end

end Floor

/-! ## Estimates -/

/-- **Estimates are the same in a view**: without quotes they may differ, but not in the
currency of the fee. -/
structure Floor.EstimatesSameIn (v : View) (quote : String)
    (e e' : Option FeeEstimate × Option Float) : Prop where
  currency : (e.1.map (·.currency)).getD quote = (e'.1.map (·.currency)).getD quote
  whole : v = .whole → e = e'

namespace Floor

open Session (Twins)

variable {v : View} {f g : Floor} {ref : Reference} {ctx : Context} {type : OrderType}
  {side : Side} {order : ValidatedOrder}

/-- Twins find the same slippage. -/
theorem twins_slippageOnLine (quantity : Float) :
    Respects Twins (slippageOnLine ref ctx side quantity).run :=
  .seq (Line.twins_fetchOrderBook _ _) fun _ => .answer _

/-- **Twins expect the same.** -/
theorem twins_estimateOnLine : Respects Twins (estimateOnLine ref ctx type side order).run := by
  have slipped : Respects Twins (slippageOf ref ctx type side order.quantity).run := by
    unfold slippageOf
    split
    · exact .seq (twins_slippageOnLine _) fun _ => .answer _
    · exact .answer none
  have priced : Respects Twins (priceOnLine ctx order).run := by
    unfold priceOnLine
    cases order.referencePrice with
    | some p => exact .answer p
    | none => exact .seq (Line.twins_fetchTicker _) fun _ => .answer _
  rw [estimateOnLine_eq]
  exact .seq slipped fun _ => .seq priced fun _ =>
    .seq (.lift (Fees.twins_estimate _ _ _ _ _)) fun _ => .answer _

/-- **A fee is expected in the quote coin**, whatever the venue says. -/
theorem currency_of_estimateOnLine {s t : Session} {fee : FeeEstimate} {slippage : Option Float}
    (h : estimateOnLine ref ctx type side order s = (.ok (fee, slippage), t)) :
    fee.currency = ctx.quote.symbol := by
  rw [estimateOnLine_eq] at h
  obtain ⟨found, s₁, -, h⟩ := Run.of_bind_ok h
  obtain ⟨price, s₂, -, h⟩ := Run.of_bind_ok h
  unfold feeOnLine at h
  rw [Run.lift_bind] at h
  cases h
  rfl

/-- An exchange leaves the floor as its session ended. -/
theorem runLine_apply {α : Type} (slug user : String) (x : Line α) (f : Floor) :
    runLine slug user x f
      = ((x (f.session slug user)).1.mapError .fault,
          f.absorb user (x (f.session slug user)).2) := by
  show ((liftM (onLine slug user x.run) : FloorM (Except Fault α)) >>= _) f = _
  have spoken : onLine slug user x.run f
      = ((x (f.session slug user)).1, f.absorb user (x (f.session slug user)).2) := rfl
  rw [Run.lift_bind, spoken]
  cases (x (f.session slug user)).1 <;> rfl

/-- Once the markets were loaded, the sessions of the context are twins. -/
theorem SameIn.twins_of_fetchMarkets {markets : List Market} (h : SameIn .whole (some ctx) f g)
    (loaded : (speak ctx Line.fetchMarkets f).1 = .ok markets) :
    Twins ((speak ctx Line.fetchMarkets f).2.session ctx.slug ctx.user)
      ((speak ctx Line.fetchMarkets g).2.session ctx.slug ctx.user) := by
  obtain ⟨connects, connects'⟩ := h.held ctx rfl
  unfold speak at loaded ⊢
  rw [runLine_apply] at loaded ⊢
  rw [runLine_apply]
  have slug (f : Floor) :
      (Line.fetchMarkets (f.session ctx.slug ctx.user)).2.slug = ctx.slug :=
    (Line.keeps_fetchMarkets (f.session ctx.slug ctx.user)).slug
  rw [session_absorb connects (slug f), session_absorb connects' (slug g)]
  have ok : (Line.fetchMarkets (f.session ctx.slug ctx.user)).1 = .ok markets := by
    cases ended : (Line.fetchMarkets (f.session ctx.slug ctx.user)).1 with
    | ok _ =>
      rw [ended] at loaded
      cases loaded
      rfl
    | error e =>
      rw [ended] at loaded
      cases loaded
  exact Line.twins_of_fetchMarkets (h.session ctx.slug ctx.user) ok

/-- **The estimates of an order are the same in the view**, when in the whole view the
sessions are twins. -/
theorem tallies_estimate (ref : Reference) (type : OrderType) (side : Side)
    (order : ValidatedOrder) (h : SameIn v (some ctx) f g)
    (twins : v = .whole →
      Twins (f.session ctx.slug ctx.user) (g.session ctx.slug ctx.user)) :
    Tallies (SameIn v (some ctx)) (EstimatesSameIn v ctx.quote.symbol)
      (estimate ref ctx type side order) (estimate ref ctx type side order) f g := by
  have asks := keeps_estimateOnLine ref ctx type side order
  have said : SameIn v (some ctx)
      (trySpeak ctx (estimateOnLine ref ctx type side order) f).2
      (trySpeak ctx (estimateOnLine ref ctx type side order) g).2 :=
    h.absorb ctx.user ((h.session ctx.slug ctx.user).reads (asks _) (asks _))
  have same : v = .whole → (trySpeak ctx (estimateOnLine ref ctx type side order) f).1
      = (trySpeak ctx (estimateOnLine ref ctx type side order) g).1 :=
    fun whole => (twins_estimateOnLine _ _ (twins whole)).1
  have quoted (f : Floor) : ∀ fee slippage,
      (trySpeak ctx (estimateOnLine ref ctx type side order) f).1 = .ok (fee, slippage) →
      fee.currency = ctx.quote.symbol :=
    fun fee slippage found => currency_of_estimateOnLine (Prod.ext found rfl)
  have currency := quoted f
  have currency' := quoted g
  -- a failed estimate is a notice on the floor where it failed
  show EstimatesSameIn v ctx.quote.symbol (estimate ref ctx type side order f).1 _
    ∧ SameIn v (some ctx) (estimate ref ctx type side order f).2 _
  unfold estimate
  rw [Run.bindM_apply, Run.bindM_apply]
  generalize trySpeak ctx (estimateOnLine ref ctx type side order) f = p at said same currency
  generalize trySpeak ctx (estimateOnLine ref ctx type side order) g = q at said same currency'
  rcases p with ⟨e | ⟨fee, slippage⟩, f'⟩ <;> rcases q with ⟨e' | ⟨fee', slippage'⟩, g'⟩
  · exact ⟨⟨rfl, fun _ => rfl⟩, said.notices _ _⟩
  · refine ⟨⟨(currency' _ _ rfl).symm, fun whole => ?_⟩, said.notices _ _⟩
    cases same whole
  · refine ⟨⟨currency _ _ rfl, fun whole => ?_⟩, said.notices _ _⟩
    cases same whole
  · refine ⟨⟨(currency _ _ rfl).trans (currency' _ _ rfl).symm, fun whole => ?_⟩, said⟩
    cases same whole
    rfl

end Floor

namespace Desk

open Floor (SameIn EstimatesSameIn)

variable {v : View} {ctx : Context}

/-- **What precedes the submission of a single order** is the same, up to the estimate. -/
theorem matches_prepareSingle (ref : Reference) (r : OrderRequest) :
    Matches (SameIn v (some ctx))
      (EndAlike fun p q => p.1 = q.1 ∧ EstimatesSameIn v ctx.quote.symbol p.2 q.2)
      (prepareSingle ref ctx r).run (prepareSingle ref ctx r).run := by
  intro f g h
  have loads := Matches.ofRespects (E := Eq) (Floor.respects_runLine Line.respects_fetchMarkets
    ctx.slug ctx.user) f g h
  refine .seq loads fun markets markets' loaded _ same => ?_
  subst same
  refine .seq (Matches.ofRespects (Floor.respects_check _) _ _ loads.2) fun order _ _ _ same => ?_
  subst same
  have estimated := Floor.tallies_estimate ref r.type r.side order loads.2 fun whole => by
      subst whole
      exact h.twins_of_fetchMarkets loaded
  exact ⟨.ok ⟨rfl, estimated.1⟩, estimated.2⟩

/-- **What precedes the submission of a pair** is the same, up to the estimate. -/
theorem matches_prepareOco (ref : Reference) (r : OrderRequest) :
    Matches (SameIn v (some ctx))
      (EndAlike fun p q => p.1 = q.1 ∧ p.2.1 = q.2.1
        ∧ EstimatesSameIn v ctx.quote.symbol (p.2.2, none) (q.2.2, none))
      (prepareOco ref ctx r).run (prepareOco ref ctx r).run := by
  intro f g h
  have loads := Matches.ofRespects (E := Eq) (Floor.respects_runLine Line.respects_fetchMarkets
    ctx.slug ctx.user) f g h
  refine .seq loads fun markets markets' loaded _ same => ?_
  subst same
  refine .seq (Matches.ofRespects (Floor.respects_check _) _ _ loads.2) fun profit _ _ _ same => ?_
  subst same
  refine .seq (Matches.ofRespects (Floor.respects_check _) _ _ loads.2) fun stop _ _ _ same => ?_
  subst same
  have estimated := Floor.tallies_estimate ref .limit r.side profit loads.2 fun whole => by
      subst whole
      exact h.twins_of_fetchMarkets loaded
  refine ⟨.ok ⟨rfl, rfl, estimated.1.currency, fun whole => ?_⟩, estimated.2⟩
  exact congrArg (fun e => (e.1, none)) (estimated.1.whole whole)

end Desk

end OrderDesk
